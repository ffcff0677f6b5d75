/-
# Where a schema is made

A value has positions: its properties and its items, and theirs.  A schema is made for one of them,
and the path of its site says which, whatever has been gone through on the way: references, other
documents, members of combinations.

* **Positions.**  `Stands` says what the documents have at a position of a schema.  It looks at
  trees and at targets of references, and knows of no site.
* **A resolution that is watched.**  `watched` is the resolution with a hook: each time that a
  schema is about to be made, what is handed over is shown to the hook, with the position that the
  steps so far have come to.  The hook can do anything: leave a trace, or fail.
* **The argument.**  A question that a layer asks takes a step or none, and the path of its site is
  one word longer or the same (`Asks.path_eq`); what it asks about stands where the step leads
  (`Asks.stands`).  So a hook which does nothing about schemas that stand at their position, at a
  site with its path, does nothing at all (`watched_eq_deepen`).
-/
import SchemaMock.Proofs.Cycles
import SchemaMock.Proofs.Lookup

namespace SchemaMock

/-! ## 1. Positions -/

/-- A step from a value into it. -/
inductive Step where
  | property (key : String)
  | item
  deriving DecidableEq, Repr

namespace Step

/-- A step as it is written in a path. -/
def word : Step → String
  | .property key => key
  | .item => OverridePath.itemKey

/-- A step that is written like no other, and without the mark between steps. -/
def Plain : Step → Prop
  | .property key => '.' ∉ key.toList ∧ key ≠ OverridePath.itemKey
  | .item => True

theorem Plain.dot_notMem {step : Step} (h : step.Plain) : '.' ∉ step.word.toList := by
  cases step with
  | property key => exact h.1
  | item => decide

theorem Plain.eq_of_word_eq {step step' : Step} (h : step.Plain) (h' : step'.Plain)
    (heq : step.word = step'.word) : step = step' := by
  cases step with
  | property key =>
    cases step' with
    | property key' => exact congrArg Step.property heq
    | item => exact absurd heq h.2
  | item =>
    cases step' with
    | property key' => exact absurd heq.symm h'.2
    | item => rfl

end Step

/-- The steps from the root of a value to a place in it. -/
abbrev Position := List Step

namespace Position

/-- The steps with points between them. -/
def written (position : Position) : String := ".".intercalate (position.map Step.word)

/-- The path of a position; the root has none. -/
def path (position : Position) : Option String :=
  if position = [] then none else some ("#." ++ position.written)

/-- The position of what one step leads to, or of what stands at the same place. -/
def below (position : Position) (step : Option Step) : Position := position ++ step.toList

/-- A step makes a path longer by a word. -/
theorem path_below (position : Position) (step : Step) :
    (position.below (some step)).path = some (OverridePath.child position.path step.word) := by
  rw [below, Option.toList_some, path, path, if_neg (List.append_ne_nil_of_right_ne_nil _
    (List.cons_ne_nil _ _)), written, written, List.map_append]
  by_cases h : position = []
  · rw [if_pos h, h]
    rfl
  · have hwords : position.map Step.word ≠ [] := by simpa using h
    rw [if_neg h, List.map_singleton, String.intercalate_append_of_ne_nil hwords
      (List.cons_ne_nil _ _), OverridePath.child, String.intercalate_singleton]
    simp only [String.append_assoc]

/-- **Positions of plain steps are told from what is written.** -/
theorem eq_of_written_eq {position position' : Position} (hne : position ≠ [])
    (hne' : position' ≠ []) (h : ∀ step ∈ position, step.Plain)
    (h' : ∀ step ∈ position', step.Plain) (heq : position.written = position'.written) :
    position = position' := by
  have hcut : ∀ {steps : Position}, steps ≠ [] → (∀ step ∈ steps, step.Plain) →
      steps.written.toList.splitOn '.' = steps.map fun step => step.word.toList := by
    intro steps hsteps hplain
    rw [written, String.toList_intercalate, List.map_map]
    refine List.splitOn_intercalate '.' (fun word hword => ?_) (by simpa using hsteps)
    obtain ⟨step, hstep, rfl⟩ := List.mem_map.mp hword
    exact (hplain step hstep).dot_notMem
  have hwords : position.map (fun step => step.word.toList)
      = position'.map fun step => step.word.toList := by
    rw [← hcut hne h, ← hcut hne' h', heq]
  -- word by word, as far as the steps are plain
  clear hcut heq hne hne'
  induction position generalizing position' with
  | nil =>
    cases position' with
    | nil => rfl
    | cons step' rest' => cases hwords
  | cons step rest ih =>
    cases position' with
    | nil => cases hwords
    | cons step' rest' =>
      obtain ⟨hword, hrest⟩ := List.cons.inj hwords
      obtain ⟨hstep, hplain⟩ := List.forall_mem_cons.mp h
      obtain ⟨hstep', hplain'⟩ := List.forall_mem_cons.mp h'
      rw [hstep.eq_of_word_eq hstep' (String.toList_inj.mp hword), ih hplain hplain' hrest]

end Position

/-- What stands at a position of the schema that stands at hand in a document: with its properties
and its items, and with what its members and the targets of references have there. -/
inductive Stands (store : DocumentStore) (documentKey : String) (schema : Schema) :
    Position → String → Schema → Prop
  | here : Stands store documentKey schema [] documentKey schema
  | property {position : Position} {at' : String} {keywords : Keywords}
      {properties : List (String × Schema)} {key : String} {part : Schema} :
      Stands store documentKey schema position at' (.object keywords properties) →
      (key, part) ∈ properties →
      Stands store documentKey schema (position.below (some (.property key))) at' part
  | beside {position : Position} {at' : String} {keywords : Keywords} {combinator : Combinator}
      {properties : List (String × Schema)} {members : List Schema} {key : String} {part : Schema} :
      Stands store documentKey schema position at'
        (.combined keywords combinator properties members) →
      (key, part) ∈ properties →
      Stands store documentKey schema (position.below (some (.property key))) at' part
  | item {position : Position} {at' : String} {keywords : Keywords} {items : Schema} :
      Stands store documentKey schema position at' (.array keywords items) →
      Stands store documentKey schema (position.below (some .item)) at' items
  | member {position : Position} {at' : String} {keywords : Keywords} {combinator : Combinator}
      {properties : List (String × Schema)} {members : List Schema} {member : Schema} :
      Stands store documentKey schema position at'
        (.combined keywords combinator properties members) →
      member ∈ members →
      Stands store documentKey schema position at' member
  | target {position : Position} {at' : String} {reference : String} :
      Stands store documentKey schema position at' (.reference reference) →
      Stands store documentKey schema position (Target.told reference at').documentKey
        (store.schemaAt (.told reference at'))

/-! ## 2. A resolution that is watched -/

/-- A schema that is about to be made, and the position that it is made for. -/
structure Handover where
  position : Position
  env : Environment
  membership : Option Membership
  placed : PlacedSchema

/-- What answers with the mock of a schema that stands at a position. -/
abbrev Locator := Position → Resolver

/-- The mocks of properties, asked for at their positions. -/
def askPropertiesAt (ask : Locator) (position : Position) (env : Environment)
    (emitted : List String) (site : Site) :
    List (String × Schema) → Resolve (List (String × Mock))
  | [] => pure []
  | (key, schema) :: rest =>
    if emitted.contains key then askPropertiesAt ask position env emitted site rest
    else do
      let mock ← ask (position.below (some (.property key))) env none
        ⟨schema, site.property key, none⟩
      let mocks ← askPropertiesAt ask position env emitted site rest
      pure ((key, mock) :: mocks)

/-- The mock of a schema at a position, from the mocks of its parts at theirs. -/
def makeLayerAt (ask : Locator) (position : Position) : Resolver := fun env membership placed =>
  match placed.schema with
  | .reference _ | .plain _ => makeLayer (ask position) env membership placed
  | .array _ _ => makeLayer (ask (position.below (some .item))) env membership placed
  | .object keywords properties => settledOr env placed do
      let mocks ←
        askPropertiesAt ask position env (emittedNames membership) placed.site properties
      let own := ownProperties env.settings (Keywords.required keywords) mocks
      pure (composedMock placed (.object own) (importsOf (mocks.map Prod.snd)))
  | .combined _ combinator properties members => settledOr env placed do
      let mocks ←
        askPropertiesAt ask position env (emittedNames membership) placed.site properties
      combineWith (ask position) env membership placed combinator members mocks

/-- One layer of a resolution in which every schema that is about to be made is watched. -/
def watchedLayer (watch : Handover → Resolve Unit) (ask : Locator) : Locator :=
  fun position env membership placed =>
    let make : Resolver := fun env membership placed => do
      watch ⟨position, env, membership, placed⟩
      makeLayerAt ask position env membership placed
    match placed.schema with
    | .reference reference => followBy make env membership reference placed.site
    | schema => schema.typed <$> make env membership placed

/-- As many watched layers as are told, with `beyond` below them. -/
def watched (watch : Handover → Resolve Unit) (beyond : Resolver) : (layers : Nat) → Locator
  | 0 => fun _ => beyond
  | layers + 1 => watchedLayer watch (watched watch beyond layers)

/-! ## 3. What a layer asks about -/

/-- What the layer of a schema asks about, and the step to it. -/
inductive Asks (membership : Option Membership) (placed : PlacedSchema) :
    Option Step → Option Membership → PlacedSchema → Prop
  | itself {reference : String} : placed.schema = .reference reference →
      Asks membership placed none membership placed
  | item {keywords : Keywords} {items : Schema} : placed.schema = .array keywords items →
      Asks membership placed (some .item) none ⟨items, placed.site.item, none⟩
  | property {keywords : Keywords} {properties : List (String × Schema)} {key : String}
      {part : Schema} : placed.schema = .object keywords properties → (key, part) ∈ properties →
      Asks membership placed (some (.property key)) none ⟨part, placed.site.property key, none⟩
  | beside {keywords : Keywords} {combinator : Combinator} {properties : List (String × Schema)}
      {members : List Schema} {key : String} {part : Schema} :
      placed.schema = .combined keywords combinator properties members → (key, part) ∈ properties →
      Asks membership placed (some (.property key)) none ⟨part, placed.site.property key, none⟩
  | member {keywords : Keywords} {combinator : Combinator} {properties : List (String × Schema)}
      {members : List Schema} {member : Schema} (among : Membership) :
      placed.schema = .combined keywords combinator properties members → member ∈ members →
      Asks membership placed none (some among) ⟨member, placed.site, none⟩

section Steps

variable {membership membership' : Option Membership} {placed placed' : PlacedSchema}
  {step : Option Step} {position : Position}

/-- A question has the path of the position it leads to. -/
theorem Asks.path_eq (h : Asks membership placed step membership' placed')
    (hpath : placed.site.path = position.path) :
    placed'.site.path = (position.below step).path := by
  cases h with
  | itself | member => rw [hpath, Position.below, Option.toList_none, List.append_nil]
  | item | property | beside =>
    rw [Position.path_below, ← hpath]
    rfl

/-- A question is about what stands at the position it leads to. -/
theorem Asks.stands {store : DocumentStore} {documentKey at' : String} {schema : Schema}
    (h : Asks membership placed step membership' placed')
    (hstands : Stands store documentKey schema position at' placed.schema) :
    Stands store documentKey schema (position.below step) at' placed'.schema := by
  have hstay : position.below none = position := List.append_nil position
  cases h with
  | itself => rwa [hstay]
  | item hschema => exact .item (hschema ▸ hstands)
  | property hschema hmem => exact .property (hschema ▸ hstands) hmem
  | beside hschema hmem => exact .beside (hschema ▸ hstands) hmem
  | member among hschema hmem =>
    rw [hstay]
    exact .member (hschema ▸ hstands) hmem

end Steps

section Layers

variable {ask : Locator} {ask' : Resolver} {position : Position} {env : Environment}

theorem askPropertiesAt_eq (ask' : Resolver) (emitted : List String) (site : Site) :
    ∀ {properties : List (String × Schema)},
      (∀ e ∈ properties, ask (position.below (some (.property e.1))) env none
          ⟨e.2, site.property e.1, none⟩ = ask' env none ⟨e.2, site.property e.1, none⟩) →
      askPropertiesAt ask position env emitted site properties
        = askProperties ask' env emitted site properties
  | [], _ => rfl
  | (key, schema) :: rest, h => by
    obtain ⟨hfirst, hrest⟩ := List.forall_mem_cons.mp h
    rw [askPropertiesAt, askProperties, hfirst, askPropertiesAt_eq ask' emitted site hrest]

/-- A layer at a position is a layer, for answers that agree on what it asks about. -/
theorem makeLayerAt_eq {membership : Option Membership} {placed : PlacedSchema}
    (h : ∀ step membership' placed', Asks membership placed step membership' placed' →
      ask (position.below step) env membership' placed' = ask' env membership' placed') :
    makeLayerAt ask position env membership placed = makeLayer ask' env membership placed := by
  have hstay : position.below none = position := List.append_nil position
  obtain ⟨schema, site, definition⟩ := placed
  cases schema with
  | reference target =>
    have hsame := h _ _ _ (.itself rfl)
    rw [hstay] at hsame
    exact hsame
  | plain keywords => rfl
  | array keywords items =>
    simp only [makeLayerAt, makeLayer, askParts, h _ _ _ (.item rfl)]
  | object keywords properties =>
    simp only [makeLayerAt, makeLayer, askParts]
    rw [askPropertiesAt_eq ask' _ site fun e he => h _ _ _ (.property rfl he)]
  | combined keywords combinator properties members =>
    have hmembers : ∀ mocks,
        combineWith (ask position) env membership
            ⟨.combined keywords combinator properties members, site, definition⟩ combinator members
            mocks
          = combineWith ask' env membership
            ⟨.combined keywords combinator properties members, site, definition⟩ combinator members
            mocks := by
      refine fun mocks => combineWith_compat compatible_eq (.refl env) _ _ _ mocks
        fun member hmember among => ?_
      have hsame := h _ _ _ (.member among rfl hmember)
      rw [hstay] at hsame
      exact hsame
    simp only [makeLayerAt, makeLayer, askParts, askCombined]
    rw [askPropertiesAt_eq ask' _ site fun e he => h _ _ _ (.beside rfl he),
      funext hmembers]

end Layers

/-! ## 4. What is handed over -/

theorem Site.path_named (site : Site) (name : String) : (site.named name).path = site.path := by
  unfold Site.named
  split
  · rfl
  · rfl

/-- A schema that is handed over where it stands in what is resolved, at a site with the path of
its position. -/
structure Handover.Placed (store : DocumentStore) (documentKey : String) (schema : Schema)
    (h : Handover) : Prop where
  stands : Stands store documentKey schema h.position h.env.documentKey h.placed.schema
  path_eq : h.placed.site.path = h.position.path

/-- **Everything that is handed over stands at its position and has its path**: a watch that does
nothing about such schemas does nothing. -/
theorem watched_eq_deepen {watch : Handover → Resolve Unit} {store : DocumentStore}
    {documentKey : String} {schema : Schema}
    (hwatch : ∀ h, Handover.Placed store documentKey schema h → watch h = pure ())
    (beyond : Resolver) (layers : Nat) {position : Position} {env : Environment}
    {membership : Option Membership} {placed : PlacedSchema} (hstore : env.store = store)
    (hplaced : Handover.Placed store documentKey schema ⟨position, env, membership, placed⟩) :
    watched watch beyond layers position env membership placed
      = deepen beyond layers env membership placed := by
  induction layers generalizing position env membership placed with
  | zero => rfl
  | succ layers ih =>
    -- what is made at a position is watched in vain, and asks about what stands at positions
    have hmake : ∀ {env membership placed}, env.store = store →
        Handover.Placed store documentKey schema ⟨position, env, membership, placed⟩ →
        (do watch ⟨position, env, membership, placed⟩
            makeLayerAt (watched watch beyond layers) position env membership placed)
          = makeLayer (deepen beyond layers) env membership placed := by
      intro env membership placed hstore hplaced
      rw [hwatch _ hplaced, pure_bind]
      refine makeLayerAt_eq fun step membership' placed' hasks => ih hstore ⟨?_, ?_⟩
      · exact hasks.stands hplaced.stands
      · exact hasks.path_eq hplaced.path_eq
    obtain ⟨schema', site, definition⟩ := placed
    cases schema' with
    | reference reference =>
      change followBy (fun env membership placed => do
            watch ⟨position, env, membership, placed⟩
            makeLayerAt (watched watch beyond layers) position env membership placed)
          env membership reference site
        = followBy (makeLayer (deepen beyond layers)) env membership reference site
      refine followBy_congr fun _ => hmake hstore ⟨?_, ?_⟩
      · have htarget := hplaced.stands.target
        rwa [← hstore] at htarget ⊢
      · exact (site.path_named _).trans hplaced.path_eq
    | plain | array | object | combined =>
      exact congrArg (Schema.typed _ <$> ·) (hmake hstore hplaced)

/-! ## 5. What a rule selects -/

/-- A key that is no pattern selects a site below the root by its position. -/
theorem Rule.selects_iff_written {engine : PatternEngine} {key text : String} {rule : Rule}
    (hrule : ofEntry engine key text = .ok rule) (hkey : patternOf? key = none) {site : Site}
    {position : Position} (hposition : position ≠ []) (hpath : site.path = position.path) :
    rule.selects site = true ↔ key = position.written := by
  have hentry : ofEntry engine (key, text).1 (key, text).2 = .ok rule := hrule
  obtain ⟨-, rfl⟩ := ofEntry_ok_iff.mp hentry
  rw [Position.path, if_neg hposition] at hpath
  rw [selects_read, keySelects, hkey, hpath, Option.bind_none, Option.any_none, Bool.false_or,
    beq_iff_eq, String.append_right_inj, eq_comm]

/-- **Override paths name positions.**  In the resolution of a schema at a root without a path,
whatever is handed over to be made stands at its position and has the path of this position; so a
key that is no pattern selects it below the root if the key is what is written for the position.
Positions of plain steps have different paths, and such a key selects one of them at most. -/
theorem override_paths_name_positions (env : Environment) (membership : Option Membership)
    (placed : PlacedSchema) (hroot : placed.site.path = none) :
    (∀ (watch : Handover → Resolve Unit) (beyond : Resolver) (layers : Nat),
      layersFor env.store placed.schema ≤ layers →
      (∀ h : Handover, h.Placed env.store env.documentKey placed.schema → watch h = pure ()) →
      watched watch beyond layers [] env membership placed
        = placed.resolve mockResolver env membership) ∧
    (∀ (engine : PatternEngine) (key text : String) (rule : Rule),
      Rule.ofEntry engine key text = .ok rule → Rule.patternOf? key = none →
      (∀ h : Handover, h.Placed env.store env.documentKey placed.schema → h.position ≠ [] →
        (rule.selects h.placed.site = true ↔ key = h.position.written)) ∧
      ∀ h h' : Handover, h.Placed env.store env.documentKey placed.schema →
        h'.Placed env.store env.documentKey placed.schema →
        h.position ≠ [] → h'.position ≠ [] →
        (∀ step ∈ h.position, step.Plain) → (∀ step ∈ h'.position, step.Plain) →
        rule.selects h.placed.site = true → rule.selects h'.placed.site = true →
        h.position = h'.position) ∧
    ∀ position position' : Position, (∀ step ∈ position, step.Plain) →
      (∀ step ∈ position', step.Plain) → position.path = position'.path →
      position = position' := by
  refine ⟨fun watch beyond layers hlayers hwatch => ?_, fun engine key text rule hrule hkey =>
    ⟨fun h hplaced hne => Rule.selects_iff_written hrule hkey hne hplaced.path_eq, ?_⟩, ?_⟩
  · calc watched watch beyond layers [] env membership placed
        = deepen beyond layers env membership placed :=
          watched_eq_deepen hwatch beyond layers rfl ⟨.here, hroot⟩
      _ = resolver env membership placed := deepen_layersFor beyond membership hlayers
  · intro h h' hplaced hplaced' hne hne' hplain hplain' hselects hselects'
    have hwritten := (Rule.selects_iff_written hrule hkey hne hplaced.path_eq).mp hselects
    have hwritten' := (Rule.selects_iff_written hrule hkey hne' hplaced'.path_eq).mp hselects'
    exact Position.eq_of_written_eq hne hne' hplain hplain' (hwritten.symm.trans hwritten')
  · intro position position' hplain hplain' hpath
    rw [Position.path, Position.path] at hpath
    by_cases hne : position = []
    · by_cases hne' : position' = []
      · rw [hne, hne']
      · rw [if_pos hne, if_neg hne'] at hpath
        cases hpath
    · by_cases hne' : position' = []
      · rw [if_neg hne, if_pos hne'] at hpath
        cases hpath
      · rw [if_neg hne, if_neg hne', Option.some_inj, String.append_right_inj] at hpath
        exact Position.eq_of_written_eq hne hne' hplain hplain' hpath

/-- A point in a key is the mark between steps, so the key is not plain. -/
example : Position.path [.property "a.b"] = Position.path [.property "a", .property "b"] := by
  decide

/-- A member with an array, whose items have a property that is a reference. -/
def labelled : Schema :=
  .combined [] .allOf [] [.object [] [("shelves", .array [] (.object []
    [("label", .reference "#/components/schemas/Label")]))]]

/-- Refuses what is handed over at a site without the path of its position. -/
def refuseStrayPaths (h : Handover) : Resolve Unit :=
  if h.placed.site.path = h.position.path then pure () else throw (.badPattern "")

/-- What is handed over for the labels. -/
def labelHandover : Handover :=
  ⟨[.property "shelves", .item, .property "label"], listEnvironment, none,
    ⟨listEnvironment.store.schemaAt (listTarget "Label"),
      ⟨"label", some "#.shelves.[].label"⟩, some "Label"⟩⟩

theorem labelHandover_placed :
    labelHandover.Placed listEnvironment.store listEnvironment.documentKey labelled := by
  refine ⟨?_, by decide⟩
  have hmember : Stands listEnvironment.store listEnvironment.documentKey labelled [] "api.json"
      (.object [] [("shelves", .array [] (.object []
        [("label", .reference "#/components/schemas/Label")]))]) :=
    .member .here List.mem_cons_self
  exact .target (.property (.item (.property hmember List.mem_cons_self)) List.mem_cons_self)

theorem override_paths_name_positions_labelled :
    watched refuseStrayPaths (fun _ _ _ => throw (.badPattern ""))
        (layersFor listEnvironment.store labelled) [] listEnvironment none
        ⟨labelled, ⟨"store", none⟩, none⟩
      = (⟨labelled, ⟨"store", none⟩, none⟩ : PlacedSchema).resolve mockResolver listEnvironment
          none ∧
    ∃ rule, Rule.ofEntry beginningEngine "shelves.[].label" "'x'" = .ok rule ∧
      rule.selects labelHandover.placed.site = true := by
  obtain ⟨hwatched, hselects, -⟩ := override_paths_name_positions listEnvironment none
    ⟨labelled, ⟨"store", none⟩, none⟩ rfl
  refine ⟨hwatched _ _ _ (Nat.le_refl _) fun h hplaced => if_pos hplaced.path_eq, _, rfl, ?_⟩
  exact ((hselects beginningEngine "shelves.[].label" "'x'" _ rfl rfl).1 labelHandover
    labelHandover_placed (List.cons_ne_nil _ _)).mpr (by decide)

end SchemaMock
