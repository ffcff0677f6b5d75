/-
# No object repeats a name

The properties of an object are put together in three places: those of a schema, those of members
that hold all at once, and those of a variant behind the ones beside the combinator.  Only the
second looks for names that are there already.  The other two need not, because of what a schema is
told when it is a member of a combination: the names that have been emitted, none of which it emits
again (`Expression.Avoids`).

So the statement that carries the induction has two halves.  No object inside a mock repeats a name,
and no object at the place of the mock itself has a name that had been emitted.  The documents are
taken to be without repeated names, as all documents are that are read from text.
-/
import SchemaMock.Proofs.Emitted

namespace SchemaMock

open Expression (Everywhere everywhere_object everywhere_array everywhere_primitive everywhere_null)

/-! ## 1. Documents without repeated names -/

/-- No object of the documents names a member twice. -/
def DocumentStore.Distinct (store : DocumentStore) : Prop :=
  ∀ key document, store.get? key = some document → document.Distinct

theorem DocumentStore.Distinct.insert {store : DocumentStore} (h : store.Distinct) (key : String)
    {document : Json} (hdocument : document.Distinct) : (store.insert key document).Distinct := by
  intro other found hfound
  by_cases heq : other = key
  · rw [heq] at hfound
    cases Option.some.inj (Entries.get?_put_self.symm.trans hfound)
    exact hdocument
  · exact h other found ((Entries.get?_put_of_ne heq).symm.trans hfound)

theorem DocumentStore.Distinct.ofList {documents : Entries Json}
    (h : ∀ e ∈ documents, e.2.Distinct) : (DocumentStore.ofList documents).Distinct := by
  have hfold : ∀ m : OrderedMap Json, (⟨m⟩ : DocumentStore).Distinct →
      (⟨documents.foldl (fun m e => m.put e.1 e.2) m⟩ : DocumentStore).Distinct := by
    induction documents with
    | nil => exact fun _ hm => hm
    | cons e rest ih =>
      obtain ⟨hfirst, hrest⟩ := List.forall_mem_cons.mp h
      exact fun m hm => ih hrest _ (hm.insert e.1 hfirst)
  exact hfold .empty nofun

theorem Json.Distinct.at? {document node : Json} {segments : List String} (h : document.Distinct)
    (hat : document.at? segments = some node) : node.Distinct := by
  induction segments generalizing document with
  | nil =>
    cases hat
    exact h
  | cons segment rest ih =>
    obtain ⟨child, hchild, hrest⟩ := Option.bind_eq_some_iff.mp hat
    exact ih ((Json.inside_of_mem_children (Json.child?_mem_children hchild)).distinct h) hrest

/-- What stands at a target names nothing twice. -/
theorem DocumentStore.Distinct.schemaAt {store : DocumentStore} (h : store.Distinct)
    (target : Target) : (store.schemaAt target).DistinctNames := by
  refine Schema.distinctNames_ofJson _ ?_
  rw [DocumentStore.node]
  cases hat : store.at? target.documentKey target.segments with
  | none => exact ⟨List.nodup_nil, trivial⟩
  | some node =>
    obtain ⟨document, hget, hnode⟩ := Option.bind_eq_some_iff.mp hat
    exact (h _ _ hget).at? hnode

/-! ## 2. Expressions -/

namespace Expression

/-- An object does not repeat a name. -/
def OwnNamesDiffer (e : Expression) : Prop :=
  ∀ properties, e = .object properties → (properties.map Prod.fst).Nodup

theorem objectsAndTexts_ownNamesDiffer : ObjectsAndTexts OwnNamesDiffer where
  null := nofun
  undefined := nofun
  oneOf := nofun
  array := nofun

theorem ownNamesDiffer_object {properties : List (String × Expression)} :
    OwnNamesDiffer (.object properties) ↔ (properties.map Prod.fst).Nodup := by
  constructor
  · exact fun h => h _ rfl
  · rintro h _ ⟨⟩
    exact h

/-- What is asked of a mock when some names had been emitted. -/
structure NamesApart (emitted : List String) (e : Expression) : Prop where
  differ : Everywhere OwnNamesDiffer e
  avoids : Avoids emitted e

theorem NamesApart.orNull {emitted : List String} {e : Expression} (h : NamesApart emitted e)
    (nullable : Bool) : NamesApart emitted (e.orNull nullable) :=
  ⟨everywhere_orNull objectsAndTexts_ownNamesDiffer h.differ nullable, h.avoids.orNull nullable⟩

theorem namesApart_primitive (emitted : List String) (text : String) :
    NamesApart emitted (.primitive text) :=
  ⟨everywhere_primitive.mpr nofun, avoids_primitive⟩

theorem namesApart_object_iff {emitted : List String} {properties : List (String × Expression)} :
    NamesApart emitted (.object properties) ↔
      (properties.map Prod.fst).Nodup ∧ (∀ key ∈ properties.map Prod.fst, key ∉ emitted) ∧
        ∀ e ∈ properties.map Prod.snd, Everywhere OwnNamesDiffer e := by
  constructor
  · rintro ⟨hdiffer, havoids⟩
    obtain ⟨hself, hvalues⟩ := everywhere_object.mp hdiffer
    exact ⟨ownNamesDiffer_object.mp hself, avoids_object.mp havoids, hvalues⟩
  · rintro ⟨hnodup, havoids, hvalues⟩
    exact ⟨everywhere_object.mpr ⟨ownNamesDiffer_object.mpr hnodup, hvalues⟩,
      avoids_object.mpr havoids⟩

/-- What is taken out of an expression does not repeat a name. -/
theorem NamesApart.nodup_of_properties? {emitted : List String} {e : Expression}
    {properties : List (String × Expression)} (h : NamesApart emitted e)
    (heq : e.properties? = some properties) : (properties.map Prod.fst).Nodup := by
  rcases eq_of_properties? heq with rfl | rfl
  · exact h.differ _ (.here _) properties rfl
  · exact h.differ _ (.choice List.mem_cons_self (.here _)) properties rfl

theorem NamesApart.mono {emitted more : List String} {e : Expression} (h : NamesApart more e)
    (hsubset : emitted ⊆ more) : NamesApart emitted e :=
  ⟨h.differ, h.avoids.mono hsubset⟩

end Expression

open Expression (OwnNamesDiffer objectsAndTexts_ownNamesDiffer ownNamesDiffer_object NamesApart
  namesApart_primitive namesApart_object_iff)

/-! ## 3. What is put together -/

/-- A schema without parts is no object. -/
theorem namesApart_plainSchema (emitted : List String) (settings : Settings)
    (keywords : Keywords) : NamesApart emitted (PlainSchema.expression settings keywords) := by
  refine ⟨?_, Expression.avoids_plainSchema settings keywords⟩
  rcases PlainSchema.expression_cases settings keywords with h | ⟨text, h, -⟩
  · rw [h]
    exact everywhere_null.mpr nofun
  · rw [h]
    exact everywhere_primitive.mpr nofun

/-- Members are merged so that the names are apart: the merged object has its names from those that
have been emitted, and none twice. -/
structure Merge.NamesApart (before : List String) (merge : Merge) : Prop where
  before_subset : before ⊆ merge.emitted
  names_subset : merge.properties.map Prod.fst ⊆ merge.emitted
  object : Expression.NamesApart before (.object merge.properties)
  other : ∀ e, merge.other = some e → Expression.NamesApart before e

theorem Merge.NamesApart.avoids {before : List String} {merge : Merge}
    (h : merge.NamesApart before) : merge.Avoids before :=
  ⟨h.before_subset, h.object.avoids, fun e he => (h.other e he).avoids⟩

theorem Merge.NamesApart.addProperty {before : List String} {merge : Merge}
    (h : merge.NamesApart before) {property : String × Expression}
    (hvalue : property.2.Everywhere OwnNamesDiffer) :
    (merge.addProperty property).NamesApart before := by
  have hadded := h.avoids.addProperty property
  rw [Merge.addProperty] at hadded ⊢
  split
  · exact h
  · next hemitted =>
    rw [if_neg hemitted] at hadded
    have hnew : property.1 ∉ merge.emitted := by simpa using hemitted
    obtain ⟨hnodup, -, hvalues⟩ := namesApart_object_iff.mp h.object
    constructor
    case before_subset => exact hadded.subset
    case names_subset =>
      simp only [List.map_append, List.append_subset]
      exact ⟨List.subset_append_of_subset_left _ h.names_subset, List.subset_append_right _ _⟩
    case object =>
      refine namesApart_object_iff.mpr
        ⟨?_, Expression.avoids_object.mp hadded.object, fun e he => ?_⟩
      · have hfresh : property.1 ∉ merge.properties.map Prod.fst :=
          fun hmem => hnew (h.names_subset hmem)
        simpa using hnodup.concat hfresh
      · simp only [List.map_append, List.mem_append, List.map_cons, List.map_nil,
          List.mem_singleton] at he
        rcases he with he | rfl
        · exact hvalues e he
        · exact hvalue
    case other => exact h.other

theorem Merge.NamesApart.addMember {before : List String} {merge : Merge}
    (h : merge.NamesApart before) {mock : Mock}
    (hmock : Expression.NamesApart before mock.expression) :
    (merge.addMember mock).NamesApart before := by
  refine Merge.addMember_invariant ⟨h.before_subset, h.names_subset, h.object, h.other⟩ ?_ ?_
  · intro properties hproperties property hmem m hm
    exact hm.addProperty (everywhere_of_properties? hmock.differ hproperties _
      (List.mem_map_of_mem hmem))
  · intro m hm
    refine ⟨hm.before_subset, hm.names_subset, hm.object, fun e he => ?_⟩
    rw [← Option.some.inj he]
    exact hmock

theorem Merge.NamesApart.expression {before : List String} {merge : Merge}
    (h : merge.NamesApart before) : Expression.NamesApart before merge.expression := by
  rcases merge.expression_cases with hother | hproperties
  · exact h.other _ hother
  · rw [hproperties]
    exact h.object

/-- A variant emits none of the names beside the combinator, so it can stand behind them. -/
theorem namesApart_behind {before : List String} {own : List (String × Expression)}
    {e : Expression} (hown : NamesApart before (.object own))
    (h : NamesApart (before ++ own.map Prod.fst) e) : NamesApart before (e.behind own) := by
  obtain ⟨hnodup, -, hvalues⟩ := namesApart_object_iff.mp hown
  refine ⟨everywhere_behind hvalues h.differ ?_,
    hown.avoids.behind (h.avoids.mono (List.subset_append_left _ _))⟩
  rintro properties rfl
  obtain ⟨hnodup', havoids', -⟩ := namesApart_object_iff.mp h
  rw [ownNamesDiffer_object, List.map_append]
  refine List.nodup_append.mpr ⟨hnodup, hnodup', ?_⟩
  rintro key hkey _ hkey' rfl
  exact havoids' key hkey' (List.mem_append_right _ hkey)

theorem namesApart_chosen {before : List String} {own : List (String × Expression)}
    {choices : List Expression} (hown : NamesApart before (.object own))
    (h : ∀ e ∈ choices, NamesApart before e) : NamesApart before (.chosen own choices) :=
  ⟨everywhere_chosen objectsAndTexts_ownNamesDiffer hown.differ fun e he => (h e he).differ,
    hown.avoids.chosen fun e he => (h e he).avoids⟩

/-! ## 4. The resolution -/

/-- What is made of a schema keeps the names apart that had been emitted. -/
def KeepsNamesApart (env : Environment) (membership : Option Membership) (placed : PlacedSchema)
    (mock : Mock) : Prop :=
  env.store.Distinct → placed.schema.DistinctNames →
    NamesApart (emittedNames membership) mock.expression

section Layers

variable {ask : Resolver} (hask : ∀ env membership placed mock,
  (ask env membership placed).Gives mock → KeepsNamesApart env membership placed mock)
  {env : Environment} (hstore : env.store.Distinct)

include hask hstore

/-- The properties of a schema make an object without the names that had been emitted. -/
theorem namesApart_own (settings : Settings) (required : List String) {emitted : List String}
    {site : Site} {properties : List (String × Schema)} {mocks : List (String × Mock)}
    (hnames : (properties.map Prod.fst).Nodup)
    (hparts : ∀ part ∈ properties.map Prod.snd, part.DistinctNames)
    (hmocks : AnswersProperties ask env emitted site properties mocks) :
    NamesApart emitted (.object (ownProperties settings required mocks)) := by
  refine namesApart_object_iff.mpr
    ⟨?_, Expression.avoids_object.mp (avoids_own settings required hmocks), ?_⟩
  · have hown : Entries.keys (ownProperties settings required mocks) = Entries.keys mocks :=
      keys_ownProperties settings required mocks
    rw [Entries.keys, Entries.keys, hmocks.names_eq] at hown
    rw [hown]
    exact hnames.sublist (List.filter_sublist.map _)
  · refine everywhere_ownProperties objectsAndTexts_ownNamesDiffer fun mock hmock => ?_
    obtain ⟨part, hpart, site', hgives⟩ := hmocks.gives mock hmock
    exact (hask _ _ _ _ hgives hstore (hparts part hpart)).differ

/-- Each member that is merged emits none of the names that had been emitted by then. -/
theorem namesApart_merged {before : List String} {site : Site} {members : List Schema}
    {begin merge : Merge} (hmembers : ∀ member ∈ members, member.DistinctNames)
    (hbegin : begin.NamesApart before) (hmerge : AnswersMerged ask env site members begin merge) :
    NamesApart before merge.expression := by
  have hmerged : merge.NamesApart before := by
    refine hmerge.invariant hbegin fun member hmember merge mock h hgives => h.addMember ?_
    exact (hask _ _ _ _ hgives hstore (hmembers member hmember)).mono h.before_subset
  exact hmerged.expression

theorem namesApart_of_makesOfParts {membership : Option Membership} {placed : PlacedSchema}
    {mock : Mock} (hschema : placed.schema.DistinctNames)
    (h : MakesOfParts ask env membership placed mock) :
    NamesApart (emittedNames membership) mock.expression := by
  cases h with
  | named | listed => exact (namesApart_primitive _ _).orNull _
  | plain => exact (namesApart_plainSchema _ _ _).orNull _
  | array hitem =>
    have hitems := hask _ _ _ _ hitem hstore (hschema.part List.mem_cons_self)
    refine NamesApart.orNull ⟨everywhere_array.mpr ⟨nofun, hitems.differ⟩, ?_⟩ _
    exact Expression.avoids_array
  | object hmocks =>
    exact (namesApart_own hask hstore env.settings _ hschema.names
      (fun _ hpart => hschema.part hpart) hmocks).orNull _
  | @merged keywords _ _ _ _ _ _ _ hmocks hown hmerge =>
    have hobject := namesApart_own hask hstore env.settings (Keywords.required keywords)
      hschema.names
      (fun _ hpart => hschema.part (List.mem_append_left _ hpart)) hmocks
    rw [← hown] at hobject
    refine (namesApart_merged hask hstore
      (fun _ hmember => hschema.part (List.mem_append_right _ hmember)) ?_ hmerge).orNull _
    exact ⟨List.subset_append_left _ _, List.subset_append_right _ _, hobject, nofun⟩
  | @chosen keywords _ _ _ _ _ _ _ _ hcombinator hmocks hown hvariants =>
    have hobject := namesApart_own hask hstore env.settings (Keywords.required keywords)
      hschema.names
      (fun _ hpart => hschema.part (List.mem_append_left _ hpart)) hmocks
    rw [← hown] at hobject
    refine (namesApart_chosen hobject fun e he => ?_).orNull _
    obtain ⟨variant, hvariant, rfl⟩ := List.mem_map.mp he
    obtain ⟨member, hmember, hgives⟩ := hvariants.gives variant hvariant
    exact namesApart_behind hobject
      (hask _ _ _ _ hgives hstore (hschema.part (List.mem_append_right _ hmember)))

theorem keepsNamesApart_of_makes {membership : Option Membership} {placed : PlacedSchema}
    {mock : Mock} (hschema : placed.schema.DistinctNames)
    (h : Makes ask env membership placed mock) :
    NamesApart (emittedNames membership) mock.expression := by
  cases h with
  | asked h => exact hask _ _ _ _ h hstore hschema
  | overridden | constant => exact (namesApart_primitive _ _).orNull _
  | made _ _ _ h => exact namesApart_of_makesOfParts hask hstore hschema h

end Layers

/-- **A resolution keeps names apart.** -/
theorem resolver_keepsNamesApart {env : Environment} {membership : Option Membership}
    {placed : PlacedSchema} {mock : Mock} (h : (resolver env membership placed).Gives mock) :
    KeepsNamesApart env membership placed mock := by
  refine resolver_induction (P := KeepsNamesApart) ?_ ?_ ?_ h
  · intro env membership placed mock h hstore hschema
    rw [Schema.expression_typed]
    exact h hstore hschema
  · intro env membership reference site definition mock h hstore _
    exact h hstore (hstore.schemaAt _)
  · intro ask hask env membership placed mock h hstore hschema
    exact keepsNamesApart_of_makes hask hstore hschema h

/-- **No object repeats a name.**  Whatever is resolved in documents without repeated names, no
object anywhere in the mock has two properties of one name; and no object that the mock can come to
at its own place has a property whose name had been emitted by the combination that asks for it. -/
theorem objects_repeat_no_name (env : Environment) (membership : Option Membership)
    (placed : PlacedSchema) (node : Json) (trace after : Trace) (mock : Mock)
    (hstore : env.store.Distinct) (hnode : node.Distinct) (hschema : placed.schema = .ofJson node)
    (hok : (placed.resolve mockResolver env membership).outcome trace = (.ok mock, after)) :
    (∀ properties, Expression.Occurs (.object properties) mock.expression →
      (properties.map Prod.fst).Nodup) ∧
    ∀ properties, Expression.Alternative (.object properties) mock.expression →
      ∀ key ∈ properties.map Prod.fst, key ∉ emittedNames membership := by
  have hnames : placed.schema.DistinctNames := hschema ▸ Schema.distinctNames_ofJson node hnode
  have hgives : (resolver env membership placed).Gives mock := ⟨trace, after, hok⟩
  obtain ⟨hdiffer, havoids⟩ := resolver_keepsNamesApart hgives hstore hnames
  exact ⟨fun properties hoccurs => hdiffer _ hoccurs properties rfl, havoids⟩

/-- A document of things with an identifier and a label. -/
def thingDocument : Json :=
  .obj [("Thing", .obj [("properties", .obj [("id", .obj []), ("label", .obj [])])])]

/-- The document of things at hand, and nothing else said. -/
def thingEnvironment : Environment :=
  { listEnvironment with store := .ofList [("api.json", thingDocument)] }

/-- A thing with a label of its own, which is once more a thing or something with a size. -/
def labelledThing : Json :=
  .obj [("properties", .obj [("label", .obj [])]),
    ("allOf", .arr [referenceNode "#/Thing", .obj [("nullable", .bool true),
      ("anyOf", .arr [referenceNode "#/Thing",
        .obj [("properties", .obj [("size", .obj []), ("label", .obj [])])]])]])]

theorem objects_repeat_no_name_thing :
    ∃ mock after, ((PlacedSchema.ofJson labelledThing ⟨"thing", none⟩).resolve mockResolver
        thingEnvironment (some ⟨.oneOf, ["id"]⟩)).outcome .empty = (.ok mock, after) ∧
      (∀ properties, Expression.Occurs (.object properties) mock.expression →
        (properties.map Prod.fst).Nodup) ∧
      ∀ properties, Expression.Alternative (.object properties) mock.expression →
        ∀ key ∈ properties.map Prod.fst, key ∉ ["id"] := by
  have hok : ((PlacedSchema.ofJson labelledThing ⟨"thing", none⟩).resolve mockResolver
      thingEnvironment (some ⟨.oneOf, ["id"]⟩)).outcome .empty = (.ok _, _) := rfl
  have hstore : thingEnvironment.store.Distinct := by
    refine .ofList (List.forall_mem_singleton.mpr ?_)
    simp [thingDocument, Json.Distinct, Json.DistinctMembers, Entries.keys]
  have hnode : labelledThing.Distinct := by
    simp [labelledThing, referenceNode, Json.Distinct, Json.DistinctMembers, Json.DistinctItems,
      Entries.keys]
  exact ⟨_, _, hok, objects_repeat_no_name thingEnvironment _ _ labelledThing .empty _ _ hstore
    hnode rfl hok⟩

end SchemaMock
