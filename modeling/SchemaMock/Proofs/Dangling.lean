/-
# References that are reported

A resolution reports a reference whose target is not there.  What it asks for stands in documents of
the store, so whatever it reports is a reference that one of these documents tells and that leads to
nothing (`DocumentStore.Dangles`); the same is true of a walk, which follows references of routes
and responses by itself.

Loading looks for references in every node of a document, and a resolution only where schemas stand.
So what a resolution reports has been looked at by loading: if its document can be loaded at all, it
has been loaded, and it is the way inside it that leads nowhere.
-/
import SchemaMock.Proofs.LoadEnds
import SchemaMock.Proofs.Walks

namespace SchemaMock

/-! ## 1. What a resolution reports -/

namespace Resolve

variable {α β : Type} {P : String → String → Prop}

/-- Every reference that `x` reports is one that `P` allows. -/
def Reports (P : String → String → Prop) (x : Resolve α) : Prop :=
  ∀ ⦃trace : Trace⦄ ⦃reference documentKey : String⦄,
    .unresolved reference documentKey ∈ (x.outcome trace).2.events →
      .unresolved reference documentKey ∈ trace.events ∨ P reference documentKey

namespace Reports

theorem of_pure (a : α) : Reports P (pure a : Resolve α) := fun _ _ _ h => .inl h

theorem of_throw (fault : MockFault) : Reports P (throw fault : Resolve α) := fun _ _ _ h => .inl h

theorem of_request (new : Import) : Reports P (request new) := fun _ _ _ h => .inl h

theorem of_record {event : Event}
    (hevent : ∀ reference documentKey, event = .unresolved reference documentKey →
      P reference documentKey) : Reports P (record event) := by
  intro trace reference documentKey h
  rcases List.mem_append.mp h with h | h
  · exact .inl h
  · exact .inr (hevent _ _ (List.mem_singleton.mp h).symm)

theorem bind {x : Resolve α} {f : α → Resolve β} (hx : Reports P x) (hf : ∀ a, Reports P (f a)) :
    Reports P (x >>= f) := by
  intro trace reference documentKey h
  rw [outcome_bind] at h
  rcases hout : x.outcome trace with ⟨fault | a, left⟩
  · rw [hout] at h
    exact hx (by rw [hout]; exact h)
  · rw [hout] at h
    rcases hf a h with hleft | hP
    · exact hx (by rw [hout]; exact hleft)
    · exact .inr hP

theorem map {x : Resolve α} (f : α → β) (hx : Reports P x) : Reports P (f <$> x) := by
  rw [map_eq_pure_bind]
  exact hx.bind fun a => of_pure _

end Reports

theorem compatible_reports (P : String → String → Prop) : Compatible fun _ x _ => x.Reports P where
  pure := .of_pure
  overridden := fun _ _ => .of_record nofun
  request := .of_request
  bind := .bind

end Resolve

open Resolve (Reports compatible_reports)

/-! ## 2. References that lead to nothing -/

/-- A reference has nothing at its target.  It stands in a document of the store, which tells it or
is where it leads. -/
def DocumentStore.Dangles (store : DocumentStore) (reference documentKey : String) : Prop :=
  ∃ current, store.contains current = true ∧
    ((current, reference) ∈ store.tellings ∨ documentKey = current) ∧
    (Target.told reference current).documentKey = documentKey ∧
    store.at? documentKey (Target.told reference current).segments = none

/-- What the documents tell is what they refer to. -/
theorem DocumentStore.mem_tellings_iff {store : DocumentStore} {key reference : String} :
    (key, reference) ∈ store.tellings ↔
      ∃ document, store.get? key = some document ∧ document.Refers reference := by
  rw [mem_tellings]
  refine exists_congr fun document => ?_
  rw [Json.mem_references_iff, ← Entries.get?_eq_some_iff store.documents.nodup]
  rfl

theorem DocumentStore.contains_of_get? {store : DocumentStore} {key : String} {document : Json}
    (h : store.get? key = some document) : store.contains key = true :=
  Option.isSome_iff_exists.mpr ⟨document, h⟩

/-- Every reference that a schema mentions is told by the document at hand, or leads into it. -/
def Environment.Asks (env : Environment) (schema : Schema) : Prop :=
  ∀ ⦃reference : String⦄, schema.Mentions reference → env.store.contains env.documentKey = true ∧
    ((env.documentKey, reference) ∈ env.store.tellings ∨
      (env.target reference).documentKey = env.documentKey)

theorem Environment.asks_of_tells {env : Environment} {schema : Schema} (h : env.Tells schema) :
    env.Asks schema := by
  intro reference hmentions
  obtain ⟨document, hget, -⟩ := DocumentStore.mem_tellings_iff.mp (h hmentions)
  exact ⟨DocumentStore.contains_of_get? hget, .inl (h hmentions)⟩

theorem Environment.Asks.part {env : Environment} {schema part : Schema} (h : env.Asks schema)
    (hpart : part ∈ schema.parts) : env.Asks part :=
  fun _ hmentions => h (.inside hpart hmentions)

theorem makeLayer_reports {P : String → String → Prop} {ask : Resolver} {env : Environment}
    (hask : ∀ membership placed, env.Asks placed.schema → (ask env membership placed).Reports P)
    (membership : Option Membership) {placed : PlacedSchema} (hasks : env.Asks placed.schema) :
    (makeLayer ask env membership placed).Reports P :=
  @makeLayer_compat _ (compatible_reports P) ask ask env env (.refl env) membership placed
    (fun _ => hask _ _ hasks) fun _ hpart _ _ => hask _ _ (hasks.part hpart)

/-- A reference is reported by the one who follows it, if there is nothing at its target. -/
theorem followLayer_reports {ask : Resolver} {env : Environment}
    (hask : ∀ env membership placed, env.Asks placed.schema →
      (ask env membership placed).Reports env.store.Dangles)
    (membership : Option Membership) {target : String} (site : Site)
    (hasks : env.Asks (.reference target)) :
    (followLayer ask env membership target site).Reports env.store.Dangles := by
  by_cases hmem : (env.target target).address ∈ env.chain
  · rw [followLayer_of_mem hmem]
    exact .of_throw _
  · intro trace reference documentKey h
    rw [followLayer_of_notMem hmem,
      Resolve.outcome_bind_of_ok (outcome_targetSchema env target site trace)] at h
    have hmade : (makeLayer ask (env.inside target) membership (env.followed target site)).Reports
        env.store.Dangles :=
      makeLayer_reports (hask (env.inside target)) membership
        (Environment.asks_of_tells (env.tells_inside target))
    have hrest : ∀ made, (do
        Resolve.record (.reference (Reference.read target env.documentKey)
          ((env.followed target site).schema.typed made))
        pure ((env.followed target site).schema.typed made) : Resolve Mock).Reports
          env.store.Dangles :=
      fun made => Reports.bind (.of_record nofun) fun _ => .of_pure _
    rcases hmade.bind hrest h with h | h
    · rw [Environment.reported] at h
      split at h
      · exact .inl h
      · next hat =>
        rcases List.mem_append.mp h with h | h
        · exact .inl h
        · cases List.mem_singleton.mp h
          obtain ⟨hcontains, htold⟩ := hasks (.here target)
          exact .inr ⟨env.documentKey, hcontains, htold, rfl, hat⟩
    · exact .inr h

/-- **A resolution reports nothing but references that lead to nothing.** -/
theorem resolver_reports {env : Environment} (membership : Option Membership)
    {placed : PlacedSchema} (hasks : env.Asks placed.schema) :
    (resolver env membership placed).Reports env.store.Dangles := by
  refine resolver_of_layers
    (Q := fun env _ placed x => env.Asks placed.schema → x.Reports env.store.Dangles)
    (fun _ _ _ _ => .of_throw _) ?_ env membership placed hasks
  intro ask ih env membership placed hasks
  obtain ⟨schema, site, definition⟩ := placed
  cases schema with
  | reference target => exact followLayer_reports ih membership site hasks
  | plain | array | object | combined =>
    exact (makeLayer_reports (ih env) membership hasks).map _

/-! ## 3. What a workspace reports -/

/-- A node stands in the document of its key: the document has all references of the node. -/
def Located.Stands (store : DocumentStore) (place : Located) : Prop :=
  ∀ reference ∈ place.value.references, (place.documentKey, reference) ∈ store.tellings

namespace Located

variable {store : DocumentStore} {place other : Located}

theorem stands_of_at? {target : Target} {value : Json}
    (hat : store.at? target.documentKey target.segments = some value) :
    Stands store ⟨target.documentKey, value⟩ := by
  intro reference hreference
  obtain ⟨document, hget, hnode⟩ := Option.bind_eq_some_iff.mp hat
  exact DocumentStore.mem_tellings_iff.mpr
    ⟨document, hget, Json.mem_references_iff.mp ((Json.at?_inside hnode).2 hreference)⟩

theorem Stands.child {key : String} {outer inner : Json} (h : Stands store ⟨key, outer⟩)
    (hmem : inner ∈ outer.children) : Stands store ⟨key, inner⟩ :=
  fun reference hreference =>
    h reference ((Json.inside_of_mem_children hmem).references_subset hreference)

theorem Stands.member {key name : String} {members : Entries Json} {value : Json}
    (h : Stands store ⟨key, .obj members⟩) (hmem : (name, value) ∈ members) :
    Stands store ⟨key, value⟩ := by
  have hchild : value ∈ (Json.obj members).children := List.mem_map_of_mem hmem
  exact h.child hchild

theorem Stands.get? {key name : String} {outer inner : Json} (h : Stands store ⟨key, outer⟩)
    (hget : outer.get? name = some inner) : Stands store ⟨key, inner⟩ := by
  cases outer with
  | obj members => exact h.member (Entries.mem_of_get? hget)
  | null | bool | num | arr | str => cases hget

/-- What a node stands for stands in its document. -/
theorem Stands.of_standsFor (h : Stands store place) (hfor : place.StandsFor store other) :
    Stands store other := by
  cases hfor with
  | itself => exact h
  | target href hat => exact stands_of_at? hat
  | nowhere => exact h

/-- A reference that is reported in its place is one that leads to nothing. -/
theorem Stands.dangles {reference documentKey : String} (h : Stands store place)
    (hmem : .dangling reference documentKey ∈ (place.target store).1) :
    store.Dangles reference documentKey := by
  obtain ⟨text, href, hat, heq⟩ := mem_target_iff.mp hmem
  cases heq
  have htold : (place.documentKey, reference) ∈ store.tellings := by
    refine h reference ?_
    cases hvalue : place.value with
    | obj members =>
      rw [hvalue] at href
      exact Json.mem_references_iff.mpr (.here (Entries.mem_of_get? href))
    | null | bool | num | arr | str =>
      rw [hvalue] at href
      cases href
  obtain ⟨document, hget, -⟩ := DocumentStore.mem_tellings_iff.mp htold
  exact ⟨place.documentKey, DocumentStore.contains_of_get? hget, .inl htold, rfl, hat⟩

end Located

namespace Workspace

variable {w : Workspace} {reference documentKey : String}

theorem HasRoutes.stands {paths : Entries Json} (h : w.HasRoutes paths) :
    Located.Stands w.store ⟨w.root, .obj paths⟩ := by
  obtain ⟨hroot, hpaths⟩ := h
  have hat : w.store.at? (Target.mk w.root []).documentKey (Target.mk w.root []).segments
      = some _ := Option.bind_eq_some_iff.mpr ⟨_, hroot, rfl⟩
  exact (Located.stands_of_at? hat).get? hpaths

theorem HasOperation.stands {route method : String} {operation : Json}
    (h : w.HasOperation route method documentKey operation) :
    Located.Stands w.store ⟨documentKey, operation⟩ := by
  obtain ⟨hpaths, hitem, hplace, -, hoperation⟩ := h
  exact ((hpaths.stands.member hitem).of_standsFor hplace).get? hoperation

/-- The schema of a body stands in the document of the body. -/
theorem HasBody.stands {body : ResponseBody} (h : w.HasBody body) :
    Located.Stands w.store ⟨body.documentKey, body.schema⟩ := by
  obtain ⟨hoperation, -, -, hresponses, hresponse, -, hplace, hcontent, hmedia, hschema⟩ := h
  obtain ⟨before, behind, rfl, -, -⟩ := hmedia
  have hvalue := ((hoperation.stands.get? hresponses).member hresponse).of_standsFor hplace
  exact ((hvalue.get? hcontent).member (List.mem_append_right _ List.mem_cons_self)).get? hschema

/-- What a walk reports on its way leads to nothing. -/
theorem dangles_of_mem_findings (h : .dangling reference documentKey ∈ w.findings) :
    w.store.Dangles reference documentKey := by
  obtain ⟨paths, route, item, hpaths, hitem, h⟩ := mem_findings_iff.mp h
  have hroute := hpaths.stands.member hitem
  rcases Finding.mem_ofRoute_iff.mp h with h | ⟨place, method, operation, hplace, hmethod,
    hoperation, h⟩
  · exact hroute.dangles h
  obtain ⟨responses, status, response, hresponses, hresponse, h⟩ :=
    Finding.mem_ofOperation_iff.mp h
  obtain ⟨-, h | ⟨_, _, _, -, -, heq⟩⟩ := Finding.mem_ofResponse_iff.mp h
  · have hstands := ((hroute.of_standsFor hplace).get? hoperation).get? hresponses
    exact (hstands.member hresponse).dangles h
  · cases heq

/-- What is reported by a mock that is made from nothing. -/
theorem dangles_of_mem_mock {key operationId : String} {placed : PlacedSchema} {tags : List String}
    (hasks : (Environment.start key w.store w.settings
      (w.settings.rules.activeFor operationId tags)).Asks placed.schema)
    (h : .unresolved reference documentKey ∈
      (w.mock mockResolver key placed operationId tags).2) :
    w.store.Dangles reference documentKey := by
  rcases resolver_reports none hasks h with h | h
  · exact absurd h List.not_mem_nil
  · exact h

/-- **A walk reports nothing but references that lead to nothing.** -/
theorem dangles_of_mem_walk (h : .unresolved reference documentKey ∈ (w.walk mockResolver).events) :
    w.store.Dangles reference documentKey := by
  rw [events_walk] at h
  obtain ⟨finding, hfinding, h⟩ := List.mem_flatMap.mp h
  cases finding with
  | dangling text key =>
    cases List.mem_singleton.mp h
    exact dangles_of_mem_findings hfinding
  | body body =>
    have hstands := (body_mem_findings_iff.mp hfinding).stands
    refine dangles_of_mem_mock (Environment.asks_of_tells fun mentioned hmentions => ?_) h
    exact hstands mentioned (Schema.mem_references_of_mentions hmentions rfl)

/-- A pointer with its mark has no more marks than it was written with. -/
theorem toList_marked (pointer : String) :
    ∃ rest, (marked pointer).toList = '#' :: rest ∧
      (['#', '#'] <+: pointer.toList ↔ rest.head? = some '#') := by
  rw [marked]
  split
  · next hhead =>
    obtain ⟨rest, hrest⟩ := List.head?_eq_some_iff.mp hhead
    refine ⟨rest, hrest, ?_⟩
    rw [hrest, List.cons_prefix_cons, List.singleton_prefix_iff_head?_eq_some]
    simp
  · next hhead =>
    refine ⟨pointer.toList, by simp, ?_⟩
    have hnot : ¬ ['#', '#'] <+: pointer.toList := by
      rintro ⟨rest, hrest⟩
      exact hhead (by rw [← hrest]; rfl)
    simp [hhead, hnot]

/-- A pointer with its mark is read as a way inside the document where it is asked for. -/
theorem read_marked {pointer : String} {rest : List Char}
    (h : (marked pointer).toList = '#' :: rest) (current : String) :
    (Reference.read (marked pointer) current).documentKey = none ∧
      (Reference.read (marked pointer) current).segments = Pointer.split (String.ofList rest) :=
  Reference.read_local h current

/-- A pointer with its mark leads into the document where it is asked for. -/
theorem told_marked (pointer current : String) :
    (Target.told (marked pointer) current).documentKey = current := by
  obtain ⟨rest, hrest, -⟩ := toList_marked pointer
  simp only [Target.told, Reference.document, (read_marked hrest current).1, Option.getD_none]

/-- **The mock at a pointer reports nothing but references that lead to nothing.** -/
theorem dangles_of_mem_mockAt {operationId pointer name : String} {tags : List String}
    (h : .unresolved reference documentKey ∈
      (w.mockAt mockResolver operationId pointer name tags).2) :
    w.store.Dangles reference documentKey := by
  simp only [mockAt] at h
  split at h
  · exact absurd h List.not_mem_nil
  · refine dangles_of_mem_mock (fun mentioned hmentions => ?_) h
    cases hmentions with
    | here => exact ⟨w.hasRoot, .inr (told_marked pointer w.root)⟩
    | inside hpart _ => exact absurd hpart List.not_mem_nil

end Workspace

/-! ## 4. What has been loaded -/

/-- A key is that of a file which is there. -/
def DocumentKey.Present (look : String → FileState) (key : String) : Prop :=
  isFile key = true ∧ ∃ path, DocumentKey.path key = .ok path ∧ look path ≠ .absent

theorem DocumentKey.Present.not_missing {look : String → FileState} {key : String}
    (h : Present look key) : ¬ Missing look key := by
  obtain ⟨hfile, path, hpath, hthere⟩ := h
  rintro (hnot | ⟨path', hpath', habsent⟩)
  · rw [hfile] at hnot
    cases hnot
  · cases hpath.symm.trans hpath'
    exact hthere habsent

/-- A reference that leads to nothing, into a document that can be loaded, leads to nothing in that
document, which has been loaded. -/
theorem Loading.Finished.absent_of_dangles {look : String → FileState} {keys : List String}
    {l : Loading} (h : Loading.Finished look keys l) {reference documentKey : String}
    (hdangles : l.store.Dangles reference documentKey)
    (hpresent : DocumentKey.Present look documentKey) :
    ∃ current source document, l.store.get? current = some source ∧
      (Target.told reference current).documentKey = documentKey ∧
      l.store.get? documentKey = some document ∧
      document.at? (Target.told reference current).segments = none := by
  obtain ⟨current, hcurrent, htold, hkey, hat⟩ := hdangles
  obtain ⟨source, hsource⟩ := Option.isSome_iff_exists.mp hcurrent
  have hstored : ∃ document, l.store.get? documentKey = some document := by
    rcases htold with htold | rfl
    · obtain ⟨origin, horigin, hrefers⟩ := DocumentStore.mem_tellings_iff.mp htold
      have hrefers : l.store.RefersTo current documentKey :=
        ⟨origin, reference, horigin, hrefers, hkey⟩
      exact (h.stored_or_missing hrefers).resolve_right hpresent.not_missing
    · exact ⟨source, hsource⟩
  obtain ⟨document, hdocument⟩ := hstored
  rw [DocumentStore.at?, hdocument, Option.bind_some] at hat
  exact ⟨current, source, document, hsource, hkey, hdocument, hat⟩

/-- **Loading covers what a resolution can ask for.**  A tree of files is loaded where its input is
there and the turns come to their end, with no two of one key.  The root has been loaded, and
whatever has been loaded can be reached from it by references; whatever a document refers to has
been loaded, or it is no file or there is no such file, and then it has been skipped, once.  So
where the mock at a pointer or a walk reports a reference into the file of a key that is there, its
document has been loaded, and the way inside it leads to nothing. -/
theorem loading_covers_resolution :
    (∀ (tree : FileTree) (input : String) (l : Loading), tree.load input = .ok l ↔
      ∃ way keys, tree.find? input = some way ∧
        Loading.Ends tree.look (.start (DocumentKey.ofWay way)) keys (.ok l)) ∧
    ∀ (look : String → FileState) (root : String) (keys : List String) (l : Loading),
      Loading.Ends look (.start root) keys (.ok l) →
      (∃ document, l.store.get? root = some document) ∧
      (∀ key document, l.store.get? key = some document →
        Relation.ReflTransGen l.store.RefersTo root key) ∧
      keys.Nodup ∧
      (∀ key target, l.store.RefersTo key target →
        (∃ document, l.store.get? target = some document) ∨ DocumentKey.Missing look target) ∧
      (l.skipped.Nodup ∧ ∀ target, target ∈ l.skipped ↔
        (∃ key, l.store.RefersTo key target) ∧ l.store.get? target = none) ∧
      ∀ w : Workspace, w.store = l.store → ∀ reference documentKey,
        ((∃ operationId pointer name tags, .unresolved reference documentKey ∈
            (w.mockAt mockResolver operationId pointer name tags).2) ∨
          .unresolved reference documentKey ∈ (w.walk mockResolver).events) →
        DocumentKey.Present look documentKey →
        ∃ current source document, l.store.get? current = some source ∧
          (Target.told reference current).documentKey = documentKey ∧
          l.store.get? documentKey = some document ∧
          document.at? (Target.told reference current).segments = none := by
  refine ⟨fun _ _ _ => FileTree.load_eq_ok_iff, fun look root keys l hends => ?_⟩
  have hdone : Loading.Finished look keys l :=
    (Loading.sound_start look root).ends hends (Loading.closed_start root)
  have hroot : l.root = root := hends.root_eq
  refine ⟨hroot ▸ hdone.stored_root, fun _ _ hget => hroot ▸ hdone.reached_of_stored hget,
    hdone.nodup, fun _ _ => hdone.stored_or_missing,
    ⟨hdone.skippedDiffer, fun _ => hdone.mem_skipped_iff⟩, ?_⟩
  intro w hstore reference documentKey hevent hpresent
  have hdangles : w.store.Dangles reference documentKey := by
    rcases hevent with ⟨_, _, _, _, hevent⟩ | hevent
    · exact Workspace.dangles_of_mem_mockAt hevent
    · exact Workspace.dangles_of_mem_walk hevent
  rw [hstore] at hdangles
  exact hdone.absent_of_dangles hdangles hpresent

/-- A file that refers into another one, and to one that is not there. -/
def yardText : String :=
  "\x7b\"a\": \x7b\"$ref\": \"lib.json#/b\"\x7d, \"$ref\": \"no.json\"\x7d"

/-- A file that refers to another machine. -/
def yardLibraryText : String := "\x7b\"$ref\": \"http://far.org/x\"\x7d"

/-- Both files. -/
def yardTree : FileTree :=
  ⟨[(["api.json"], some yardText), (["lib.json"], some yardLibraryText)]⟩

/-- The document of the first file. -/
def yardDocument : Json := .obj [("a", referenceNode "lib.json#/b"), ("$ref", .str "no.json")]

/-- The documents of both files. -/
def yardStore : DocumentStore :=
  .ofList [("file:///api.json", yardDocument),
    ("file:///lib.json", referenceNode "http://far.org/x")]

/-- Three turns load both files. -/
theorem ends_yard : ∃ l, Loading.Ends yardTree.look (.start "file:///api.json")
      ["file:///api.json", "file:///lib.json", "file:///no.json"] (.ok l) ∧
    l.store = yardStore ∧ l.skipped = ["http://far.org/x", "file:///no.json"] := by
  have hapi : documentOfText .any "/api.json" yardText = .ok yardDocument := by
    with_unfolding_all rfl
  have hlib : documentOfText .any "/lib.json" yardLibraryText
      = .ok (referenceNode "http://far.org/x") := by with_unfolding_all rfl
  exact ⟨_, .turn rfl (Loading.turn_of_text rfl rfl hapi)
    (.turn rfl (Loading.turn_of_text rfl rfl hlib)
      (.turn rfl (Loading.turn_of_absent rfl rfl (by decide)) (.done rfl))), rfl, rfl⟩

/-- The yard at hand. -/
def yardWorkspace : Workspace where
  store := yardStore
  root := "file:///api.json"
  settings := ⟨⟨[], [], []⟩, .empty, false, 0, 1, false⟩
  hasRoot := rfl

theorem loading_covers_resolution_yard :
    ∃ l, yardTree.load "/api.json" = .ok l ∧ l.store = yardStore ∧
      l.skipped = ["http://far.org/x", "file:///no.json"] ∧ l.skipped.Nodup ∧
      .unresolved "lib.json#/b" "file:///lib.json"
        ∈ (yardWorkspace.mockAt mockResolver "" "/a" "" []).2 ∧
      ∃ current source document, l.store.get? current = some source ∧
        (Target.told "lib.json#/b" current).documentKey = "file:///lib.json" ∧
        l.store.get? "file:///lib.json" = some document ∧
        document.at? (Target.told "lib.json#/b" current).segments = none := by
  obtain ⟨l, hends, hstore, hskipped⟩ := ends_yard
  have hload : yardTree.load "/api.json" = .ok l :=
    (loading_covers_resolution.1 _ _ _).mpr ⟨["api.json"], _, rfl, hends⟩
  have hevent : .unresolved "lib.json#/b" "file:///lib.json"
      ∈ (yardWorkspace.mockAt mockResolver "" "/a" "" []).2 := List.mem_cons_self
  have hpresent : DocumentKey.Present yardTree.look "file:///lib.json" :=
    ⟨rfl, "/lib.json", rfl, by decide⟩
  obtain ⟨-, -, -, -, ⟨hnodup, -⟩, hcovers⟩ := loading_covers_resolution.2 yardTree.look _ _ l hends
  exact ⟨l, hload, hstore, hskipped, hnodup, hevent,
    hcovers yardWorkspace hstore.symm _ _ (.inl ⟨_, _, _, _, hevent⟩) hpresent⟩

end SchemaMock
