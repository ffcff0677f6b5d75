/-
# The order of members

Nothing but the order of properties depends on the order in which the members of objects are written
down.  Two resolutions are compared side by side, of the same documents with their members in
another order: they fail both, or make mocks that differ in the order of properties only.

Properties are made one after another, and the first that fails ends the resolution.  But whether
one fails, and what is made of it, does not depend on those before (`askProperties_matches`).  A
member of a combination is told the names that have been emitted, in an order, but it only asks
which there are (`SameEmitted`).

The comparison goes layer by layer.  Where members are merged it needs that no object repeats a
name, so what is asked is to keep names apart as well (`RespectsNames`).
-/
import SchemaMock.Proofs.Chains
import SchemaMock.Proofs.Documents
import SchemaMock.Proofs.MockOrder
import SchemaMock.Proofs.SideBySide

namespace SchemaMock

open Resolve (Matches matches_pure matches_throw matches_record matches_request settles_pure)

/-! ## 1. Resolutions to compare -/

/-- The same environment but for documents with their members in another order. -/
structure Environment.Exchangeable (env env' : Environment) : Prop where
  documentKey_eq : env'.documentKey = env.documentKey
  store : env.store.Exchangeable env'.store
  settings_eq : env'.settings = env.settings
  rules_eq : env'.rules = env.rules
  chain_eq : env'.chain = env.chain

/-- The same schema at the same place, but for the order of properties; no name is repeated. -/
structure PlacedSchema.Reordered (placed placed' : PlacedSchema) : Prop where
  schema : placed.schema.Reordered placed'.schema
  names : placed.schema.DistinctNames
  site_eq : placed'.site = placed.site
  definition_eq : placed'.definition = placed.definition

/-- The same names have been emitted. -/
def SameEmitted (membership membership' : Option Membership) : Prop :=
  SameMembers (emittedNames membership) (emittedNames membership')

/-- What is asked for in another order comes to the same in another order. -/
def RespectsOrder (ask : Resolver) : Prop :=
  ∀ {env env' : Environment} {membership membership' : Option Membership}
    {placed placed' : PlacedSchema}, env.Exchangeable env' → SameEmitted membership membership' →
    placed.Reordered placed' →
    Matches Mock.Reordered (ask env membership placed) (ask env' membership' placed')

/-- What is asked for keeps names apart. -/
def RespectsNames (ask : Resolver) : Prop :=
  ∀ {env : Environment} {membership : Option Membership} {placed : PlacedSchema} {mock : Mock},
    (ask env membership placed).Gives mock → KeepsNamesApart env membership placed mock

section Exchangeable

variable {env env' : Environment} (henv : env.Exchangeable env') (reference : String)

include henv

theorem Environment.Exchangeable.target_eq : env'.target reference = env.target reference :=
  congrArg (Target.told reference) henv.documentKey_eq

theorem Environment.Exchangeable.inside :
    (env.inside reference).Exchangeable (env'.inside reference) where
  documentKey_eq := congrArg Target.documentKey (henv.target_eq reference)
  store := henv.store
  settings_eq := henv.settings_eq
  rules_eq := henv.rules_eq
  chain_eq := by
    have hchain : ∀ env : Environment,
        (env.inside reference).chain = env.chain ++ [(env.target reference).address] :=
      fun _ => rfl
    rw [hchain, hchain, henv.chain_eq, henv.target_eq]

/-- A reference leads to the same schema in another order. -/
theorem Environment.Exchangeable.followed (site : Site) :
    (env.followed reference site).Reordered (env'.followed reference site) := by
  constructor
  · rw [Environment.followed, Environment.followed, henv.target_eq]
    exact henv.store.schemaAt _
  · exact henv.store.distinct.schemaAt _
  · rw [Environment.followed, Environment.followed, henv.documentKey_eq]
  · rw [Environment.followed, Environment.followed, henv.documentKey_eq]

end Exchangeable

namespace PlacedSchema.Reordered

variable {placed placed' : PlacedSchema} (h : placed.Reordered placed')

include h

theorem nullable_eq : placed'.schema.nullable = placed.schema.nullable :=
  h.schema.keywords.nullable_eq

/-- What is made at the place of a schema, with `null` where the schema says so. -/
theorem mock {e e' : Expression} {imports imports' : List Import} (he : e.Reordered e')
    (himports : SameMembers imports imports') (overridden : Bool) :
    Mock.Reordered
      ⟨e.orNull placed.schema.nullable, imports, placed.site.name, overridden, none⟩
      ⟨e'.orNull placed'.schema.nullable, imports', placed'.site.name, overridden, none⟩ := by
  constructor
  · rw [h.nullable_eq]
    exact he.orNull _
  · exact himports
  · exact congrArg Site.name h.site_eq
  · rfl
  · rfl

/-- The declared types of mocks are those of the schemas. -/
theorem typed {mock mock' : Mock} (hmock : mock.Reordered mock') :
    (placed.schema.typed mock).Reordered (placed'.schema.typed mock') := by
  have htype : placed'.schema.type? = placed.schema.type? := h.schema.keywords.type?_eq
  obtain ⟨schema, site, definition⟩ := placed
  obtain ⟨schema', site', definition'⟩ := placed'
  have hschema := h.schema
  cases hschema with
  | reference => exact hmock
  | plain | array | object | combined =>
    exact ⟨hmock.expression, hmock.imports, hmock.name_eq, hmock.overridden_eq, htype⟩

end PlacedSchema.Reordered

/-! ## 2. Parts -/

/-- What comes of a property. -/
def answered (ask : Resolver) (env : Environment) (site : Site) (property : String × Schema) :
    Option Mock :=
  (ask env none ⟨property.2, site.property property.1, none⟩).result?

/-- The answers about properties, from what comes of each of them. -/
theorem settles_askProperties {ask : Resolver} {env : Environment} {site : Site}
    (emitted : List String) : ∀ {properties : Entries Schema},
      (∀ e ∈ properties,
        (ask env none ⟨e.2, site.property e.1, none⟩).Settles (answered ask env site e)) →
      (askProperties ask env emitted site properties).Settles
        ((properties.filter fun e => !emitted.contains e.1).mapM fun e =>
          (answered ask env site e).map fun mock => (e.1, mock))
  | [], _ => settles_pure []
  | (key, schema) :: rest, h => by
    obtain ⟨hfirst, hrest⟩ := List.forall_mem_cons.mp h
    have ih := settles_askProperties emitted hrest
    rw [askProperties]
    by_cases hemitted : emitted.contains key = true
    · rw [if_pos hemitted, List.filter_cons_of_neg (by simpa using hemitted)]
      exact ih
    · rw [if_neg hemitted, List.filter_cons_of_pos (by simpa using hemitted), List.mapM_cons]
      have hchain := hfirst.bind fun mock _ =>
        ih.bind fun mocks _ => settles_pure ((key, mock) :: mocks)
      -- the chain is that of `mapM` once it is known whether the first answer is there
      cases hanswer : answered ask env site (key, schema) with
      | none =>
        rw [hanswer] at hchain
        exact hchain
      | some mock =>
        rw [hanswer] at hchain
        exact hchain

section Parts

variable {ask : Resolver} (hask : RespectsOrder ask) {env env' : Environment}
  (henv : env.Exchangeable env')

include hask henv

/-- **Properties are made alike in any order**: whether one fails, and what comes of it, does not
depend on those before. -/
theorem askProperties_matches {emitted emitted' : List String}
    (hemitted : SameMembers emitted emitted') (site : Site)
    {properties properties' : Entries Schema}
    (h : Entries.Reordered Schema.Reordered properties properties')
    (hnames : ∀ part ∈ properties.map Prod.snd, part.DistinctNames) :
    Matches (Entries.Reordered Mock.Reordered) (askProperties ask env emitted site properties)
      (askProperties ask env' emitted' site properties') := by
  have hboth := h.and_left hnames
  have hquestion : ∀ e e' : String × Schema, e.1 = e'.1 →
      e.2.DistinctNames ∧ e.2.Reordered e'.2 →
      Matches Mock.Reordered (ask env none ⟨e.2, site.property e.1, none⟩)
        (ask env' none ⟨e'.2, site.property e'.1, none⟩) := by
    rintro e e' hkey ⟨hdistinct, hschema⟩
    exact hask henv (fun _ => Iff.rfl) ⟨hschema, hdistinct, by rw [hkey], rfl⟩
  -- each run comes to one list of answers, and these lists are compared without a trace
  have hleft := settles_askProperties emitted fun e he => by
    obtain ⟨e', -, hkey, hsame⟩ := hboth.exists_right he
    exact (hquestion e e' hkey hsame).left
  have hright := settles_askProperties emitted' fun e' he' => by
    obtain ⟨e, -, hkey, hsame⟩ := hboth.exists_left he'
    exact (hquestion e e' hkey hsame).right
  have hasked := hboth.filter (p := fun key => !emitted.contains key)
    (q := fun key => !emitted'.contains key) fun key => by rw [hemitted.contains_eq]
  refine hleft.matches hright (hasked.mapM_rel fun e e' hkey hsame => ?_)
  exact (hquestion e e' hkey hsame).rel

/-- Members are merged alike, since none has two properties of one name. -/
theorem askMerged_matches (hnames : RespectsNames ask) (site : Site)
    {members members' : List Schema} (h : List.Forall₂ Schema.Reordered members members')
    {merge merge' : Merge}
    (hmerge : merge.Reordered merge') (hdistinct : ∀ member ∈ members, member.DistinctNames) :
    Matches Merge.Reordered (askMerged ask env site members merge)
      (askMerged ask env' site members' merge') := by
  induction h generalizing merge merge' with
  | nil => exact matches_pure hmerge
  | @cons member member' rest rest' hfirst _ ih =>
    obtain ⟨hmember, hrest⟩ := List.forall_mem_cons.mp hdistinct
    rw [askMerged, askMerged]
    have hasked : Matches Mock.Reordered
        (ask env (some ⟨.allOf, merge.emitted⟩) ⟨member, site, none⟩)
        (ask env' (some ⟨.allOf, merge'.emitted⟩) ⟨member', site, none⟩) :=
      hask henv hmerge.emitted ⟨hfirst, hmember, rfl, rfl⟩
    refine hasked.bind fun mock mock' hmock hgives => ?_
    have hapart := hnames hgives henv.store.distinct hmember
    exact ih (hmerge.addMember hmock fun properties => hapart.nodup_of_properties?) hrest

theorem askVariants_matches (site : Site) {membership membership' : Membership}
    (hemitted : SameMembers membership.emitted membership'.emitted) {members members' : List Schema}
    (h : List.Forall₂ Schema.Reordered members members')
    (hdistinct : ∀ member ∈ members, member.DistinctNames) :
    Matches (List.Forall₂ Mock.Reordered) (askVariants ask env membership site members)
      (askVariants ask env' membership' site members') := by
  induction h with
  | nil => exact matches_pure .nil
  | @cons member member' rest rest' hfirst _ ih =>
    obtain ⟨hmember, hrest⟩ := List.forall_mem_cons.mp hdistinct
    rw [askVariants, askVariants]
    have hasked : Matches Mock.Reordered (ask env (some membership) ⟨member, site, none⟩)
        (ask env' (some membership') ⟨member', site, none⟩) :=
      hask henv hemitted ⟨hfirst, hmember, rfl, rfl⟩
    refine hasked.bind fun mock mock' hmock _ => ?_
    exact (ih hrest).bind fun mocks mocks' hmocks _ => matches_pure (.cons hmock hmocks)

end Parts

/-! ## 3. Layers -/

section Settled

variable {env env' : Environment} (henv : env.Exchangeable env') {placed placed' : PlacedSchema}
  (hplaced : placed.Reordered placed')

include henv hplaced

/-- What settles a schema is told by its place, and by keywords that are printed as they stand. -/
theorem settledOr_matches {x y : Resolve Mock} (h : Matches Mock.Reordered x y) :
    Matches Mock.Reordered (settledOr env placed x) (settledOr env' placed' y) := by
  have halike := hplaced.schema.keywords
  simp only [settledOr, ActiveRules.mock?_eq, henv.rules_eq, henv.settings_eq, hplaced.site_eq,
    halike.literal_eq "example" (by decide), halike.literal_eq "const" (by decide)]
  cases env.rules.inOrder.first? placed.site with
  | some rule =>
    have hmock := hplaced.mock (.primitive rule.text) (.refl []) true
    exact (matches_record _ _).bind fun _ _ _ _ => matches_pure hmock
  | none =>
    simp only [Option.map_none]
    split
    · next value _ =>
      exact matches_pure (hplaced.mock (.primitive value.compact) (.refl []) false)
    · exact h

theorem plainMock_matches :
    Matches Mock.Reordered (plainMock env placed) (plainMock env' placed') := by
  have halike := hplaced.schema.keywords
  simp only [plainMock, enumerationMock, henv.settings_eq, henv.documentKey_eq,
    hplaced.definition_eq, halike.enumeration?_eq, halike.expression_eq]
  split
  · next values _ =>
    cases placed.definition with
    | some name =>
      have hmock := hplaced.mock (.primitive (namedEnumeration name))
        (.refl [⟨name, some env.documentKey, true⟩]) false
      exact (matches_request _ _).bind fun _ _ _ _ => matches_pure hmock
    | none =>
      have hmock := hplaced.mock (.primitive (listedEnumeration values)) (.refl []) false
      exact matches_pure hmock
  · exact matches_pure (hplaced.mock (Expression.reordered_plainSchema _ _) (.refl []) false)

end Settled

section Layers

variable {ask : Resolver} (hask : RespectsOrder ask) (hnames : RespectsNames ask)
  {env env' : Environment} (henv : env.Exchangeable env')
  {membership membership' : Option Membership} (hmembership : SameEmitted membership membership')
  {placed placed' : PlacedSchema} (hplaced : placed.Reordered placed')

include hask hnames henv hmembership hplaced

theorem combineWith_matches (combinator : Combinator) {members members' : List Schema}
    (hmembers : List.Forall₂ Schema.Reordered members members')
    (hdistinct : ∀ member ∈ members, member.DistinctNames) {mocks mocks' : Entries Mock}
    (hmocks : Entries.Reordered Mock.Reordered mocks mocks') :
    Matches Mock.Reordered (combineWith ask env membership placed combinator members mocks)
      (combineWith ask env' membership' placed' combinator members' mocks') := by
  have hown := reordered_ownProperties hmocks env.settings
    (Keywords.required placed.schema.keywords)
  have himports := sameMembers_importsOf hmocks
  have hemitted := hmembership.append fun key => hown.keys_perm.mem_iff (a := key)
  simp only [combineWith, henv.settings_eq, hplaced.schema.keywords.required_eq, hplaced.site_eq]
  cases combinator with
  | allOf =>
    have hbegin : Merge.Reordered ⟨_, _, none, _⟩ ⟨_, _, none, _⟩ :=
      ⟨hemitted, hown, .none, himports⟩
    refine (askMerged_matches hask henv hnames placed.site hmembers hbegin hdistinct).bind
      fun merge merge' hmerge _ => ?_
    exact matches_pure (hplaced.mock hmerge.expression hmerge.imports false)
  | oneOf | anyOf =>
    refine (askVariants_matches hask henv placed.site hemitted hmembers hdistinct).bind
      fun variants variants' hvariants _ => ?_
    exact matches_pure (hplaced.mock (reordered_variants hown hvariants)
      (sameMembers_importsBehind himports hvariants) false)

/-- **A layer of the same documents in another order makes the same mock in another order.** -/
theorem makeLayer_matches :
    Matches Mock.Reordered (makeLayer ask env membership placed)
      (makeLayer ask env' membership' placed') := by
  have hplaced' := hplaced
  obtain ⟨schema, site, definition⟩ := placed
  obtain ⟨schema', site', definition'⟩ := placed'
  obtain ⟨hschema, hdistinct, rfl, rfl⟩ := hplaced'
  have hparts : ∀ part ∈ schema.parts, part.DistinctNames := fun part => hdistinct.part
  cases hschema with
  | reference target => exact hask henv hmembership hplaced
  | plain => exact settledOr_matches henv hplaced (plainMock_matches henv hplaced)
  | @array keywords keywords' items items' hkeywords hitems =>
    refine settledOr_matches henv hplaced ?_
    have hasked : Matches Mock.Reordered (ask env none ⟨items, site'.item, none⟩)
        (ask env' none ⟨items', site'.item, none⟩) :=
      hask henv (.refl _) ⟨hitems, hparts items List.mem_cons_self, rfl, rfl⟩
    simp only [askParts, henv.settings_eq, hkeywords.itemBounds_eq]
    refine hasked.bind fun item item' hitem _ => ?_
    exact matches_pure (hplaced.mock (.array _ _ hitem.expression) hitem.imports false)
  | @object keywords _ _ _ _ hkeywords hkeys hvalues hperm =>
    refine settledOr_matches henv hplaced ?_
    simp only [askParts, henv.settings_eq, hkeywords.required_eq]
    have hproperties := Entries.Reordered.of_keys hkeys hvalues hperm
    refine (askProperties_matches hask henv hmembership site' hproperties hparts).bind
      fun mocks mocks' hmocks _ => ?_
    have hown := reordered_ownProperties hmocks env.settings (Keywords.required keywords)
    exact matches_pure (hplaced.mock (Expression.reordered_object hown)
      (sameMembers_importsOf hmocks) false)
  | combined hkeywords hkeys hvalues hperm hmembers =>
    obtain ⟨hown, hrest⟩ := List.forall_mem_append.mp hparts
    refine settledOr_matches henv hplaced ?_
    simp only [askParts, askCombined]
    have hproperties := Entries.Reordered.of_keys hkeys hvalues hperm
    refine (askProperties_matches hask henv hmembership site' hproperties hown).bind
      fun mocks mocks' hmocks _ => ?_
    exact combineWith_matches hask hnames henv hmembership hplaced _ hmembers hrest hmocks

end Layers

section Following

variable {ask : Resolver} (hask : RespectsOrder ask) (hnames : RespectsNames ask)

/-- What a reference leads to is found without a look at the trace. -/
theorem settles_targetSchema (env : Environment) (reference : String) (site : Site) :
    (targetSchema env reference (Reference.read reference env.documentKey)
      (site.named (Reference.read reference env.documentKey).name)).Settles
        (some (env.followed reference site)) := by
  intro trace
  rw [outcome_targetSchema]
  rfl

include hask hnames

theorem followLayer_matches {env env' : Environment} (henv : env.Exchangeable env')
    {membership membership' : Option Membership} (hmembership : SameEmitted membership membership')
    (reference : String) (site : Site) :
    Matches Mock.Reordered (followLayer ask env membership reference site)
      (followLayer ask env' membership' reference site) := by
  have htarget := henv.target_eq reference
  by_cases hmem : (env.target reference).address ∈ env.chain
  · have hmem' : (env'.target reference).address ∈ env'.chain := by
      rw [htarget, henv.chain_eq]
      exact hmem
    rw [followLayer_of_mem hmem, followLayer_of_mem hmem']
    exact matches_throw _ _
  · have hmem' : (env'.target reference).address ∉ env'.chain := by
      rw [htarget, henv.chain_eq]
      exact hmem
    rw [followLayer_of_notMem hmem, followLayer_of_notMem hmem']
    have hfound := (settles_targetSchema env reference site).matches
      (settles_targetSchema env' reference site) (.some (henv.followed reference site))
    refine hfound.bind fun placed placed' hplaced _ => ?_
    refine (makeLayer_matches hask hnames (henv.inside reference) hmembership hplaced).bind
      fun mock mock' hmock _ => ?_
    exact (matches_record _ _).bind fun _ _ _ _ => matches_pure (hplaced.typed hmock)

theorem resolveLayer_matches : RespectsOrder (resolveLayer ask) := by
  intro env env' membership membership' placed placed' henv hmembership hplaced
  have hmade := (makeLayer_matches hask hnames henv hmembership hplaced).map
    fun _ _ hmock => hplaced.typed hmock
  obtain ⟨schema, site, definition⟩ := placed
  obtain ⟨schema', site', definition'⟩ := placed'
  obtain ⟨hschema, -, rfl, rfl⟩ := hplaced
  cases hschema with
  | reference reference => exact followLayer_matches hask hnames henv hmembership reference site'
  | plain | array | object | combined => exact hmade

end Following

/-! ## 4. The resolution -/

/-- Layers that are told keep names apart, since what they come to is what the resolution does. -/
theorem respectsNames_deepen (layers : Nat) :
    RespectsNames (deepen unanswered layers) := by
  rintro env membership placed mock ⟨trace, after, hok⟩
  have hsame : env.Freer env := ⟨.refl env, rfl, List.Subset.refl _⟩
  exact resolver_keepsNamesApart
    ⟨trace, after, deepen_within_resolver layers hsame membership placed hok⟩

/-- **A resolution of the same documents in another order comes to the same mock in another
order.** -/
theorem resolver_respectsOrder : RespectsOrder resolver := by
  have hdeepen : ∀ layers, RespectsOrder (deepen unanswered layers) := by
    intro layers
    induction layers with
    | zero => exact fun _ _ _ => matches_throw _ _
    | succ layers ih => exact resolveLayer_matches ih (respectsNames_deepen layers)
  intro env env' membership membership' placed placed' henv hmembership hplaced
  have hlayers := hdeepen
    (max (layersFor env.store placed.schema) (layersFor env'.store placed'.schema))
    henv hmembership hplaced
  rw [deepen_layersFor _ _ (Nat.le_max_left _ _), deepen_layersFor _ _ (Nat.le_max_right _ _)]
    at hlayers
  exact hlayers

/-- **The order of members does not change what a document means.**  Let two stores have the same
keys, with the same documents but for the order of the members of objects, and nothing in what is
printed as it stands that could be in another order; and let two nodes be the same in that sense.
Then both resolutions fail, or both succeed with mocks that are the same but for the order of
properties and of imports. -/
theorem member_order_does_not_matter (env : Environment) (store : DocumentStore)
    (membership : Option Membership) (node node' : Json) (site : Site) (definition : Option String)
    (trace : Trace) (hstore : env.store.Exchangeable store) (hnode : node.Exchangeable node') :
    (∃ mock mock' after after',
      (PlacedSchema.resolve mockResolver env membership ⟨.ofJson node, site, definition⟩).outcome
          trace = (.ok mock, after) ∧
        (PlacedSchema.resolve mockResolver { env with store := store } membership
          ⟨.ofJson node', site, definition⟩).outcome trace = (.ok mock', after') ∧
        mock.Reordered mock' ∧ SameMembers after.imports after'.imports) ∨
    ∃ fault fault' after after',
      (PlacedSchema.resolve mockResolver env membership ⟨.ofJson node, site, definition⟩).outcome
          trace = (.error fault, after) ∧
        (PlacedSchema.resolve mockResolver { env with store := store } membership
          ⟨.ofJson node', site, definition⟩).outcome trace = (.error fault', after') := by
  have henv : env.Exchangeable { env with store := store } := ⟨rfl, hstore, rfl, rfl, rfl⟩
  have hmembership : SameEmitted membership membership := .refl _
  have hplaced : PlacedSchema.Reordered ⟨.ofJson node, site, definition⟩
      ⟨.ofJson node', site, definition⟩ :=
    ⟨Schema.reordered_ofJson hnode, Schema.distinctNames_ofJson node hnode.distinct, rfl, rfl⟩
  rcases (resolver_respectsOrder henv hmembership hplaced).outcome trace trace with
    ⟨mock, mock', after, after', hok, hok', hmock⟩ | hfails
  · refine Or.inl ⟨mock, mock', after, after', hok, hok', hmock, fun i => ?_⟩
    rw [(resolver_adds _ _ _).accounts.mem_imports hok,
      (resolver_adds _ _ _).accounts.mem_imports hok', hmock.imports i]
  · exact Or.inr hfails

/-- A document of boxes, each of one of two colours, with the properties in a given order. -/
def boxDocument (order : Entries Json → Entries Json) : Json :=
  .obj [("Box", .obj [("properties", .obj (order
    [("colour", .obj [("enum", .arr [.str "red", .str "blue"])]),
      ("size", .obj [("type", .str "integer")])]))])]

/-- The boxes at hand, and nothing else said. -/
def boxEnvironment (order : Entries Json → Entries Json) : Environment :=
  { listEnvironment with store := .ofList [("api.json", boxDocument order)] }

/-- A crate is a box with a label, and with a size and a weight of its own. -/
def crate (order : Entries Json → Entries Json) : Json :=
  .obj (order [("properties", .obj [("label", .obj [])]),
    ("allOf", .arr [referenceNode "#/Box",
      .obj [("properties", .obj (order [("size", .obj []), ("weight", .obj [])]))]])])

theorem boxDocument_exchangeable : (boxDocument id).Exchangeable (boxDocument List.reverse) := by
  constructor
  · refine Json.reordered_obj (.of_related (.cons ⟨rfl, ?_⟩ .nil))
    refine Json.reordered_obj (.of_related (.cons ⟨rfl, ?_⟩ .nil))
    exact .swap (.refl _) (.refl _) _ _
  · simp [boxDocument, Json.Distinct, Json.DistinctMembers, Json.DistinctItems, Entries.keys]
  · simp [boxDocument, Json.literalKeywords]

theorem crate_exchangeable : (crate id).Exchangeable (crate List.reverse) := by
  constructor
  · refine .swap (.refl _) (.arr (.cons (.refl _) (.cons ?_ .nil))) _ _
    refine Json.reordered_obj (.of_related (.cons ⟨rfl, ?_⟩ .nil))
    exact .swap (.refl _) (.refl _) _ _
  · simp [crate, referenceNode, Json.Distinct, Json.DistinctMembers, Json.DistinctItems,
      Entries.keys]
  · simp [crate, referenceNode, Json.literalKeywords]

theorem member_order_does_not_matter_crate :
    ∃ mock mock' after after',
      ((PlacedSchema.ofJson (crate id) ⟨"crate", none⟩).resolve mockResolver (boxEnvironment id)
        none).outcome .empty = (.ok mock, after) ∧
      ((PlacedSchema.ofJson (crate List.reverse) ⟨"crate", none⟩).resolve mockResolver
        (boxEnvironment List.reverse) none).outcome .empty = (.ok mock', after') ∧
      mock.Reordered mock' ∧ SameMembers after.imports after'.imports := by
  have hok : ((PlacedSchema.ofJson (crate id) ⟨"crate", none⟩).resolve mockResolver
      (boxEnvironment id) none).outcome .empty = (.ok _, _) := rfl
  have hstore : (boxEnvironment id).store.Exchangeable (boxEnvironment List.reverse).store := by
    intro key
    change Option.Rel _ (if "api.json" = key then some (boxDocument id) else none)
      (if "api.json" = key then some (boxDocument List.reverse) else none)
    split
    · exact .some boxDocument_exchangeable
    · exact .none
  rcases member_order_does_not_matter (boxEnvironment id) (boxEnvironment List.reverse).store none
      (crate id) (crate List.reverse) ⟨"crate", none⟩ none .empty hstore crate_exchangeable with
    hsame | ⟨fault, -, after, -, hfails, -⟩
  · exact hsame
  · have hfails' := hok.symm.trans hfails
    cases hfails'

end SchemaMock
