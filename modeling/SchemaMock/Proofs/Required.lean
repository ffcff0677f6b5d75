/-
# Properties that must be there

The settings can say that every property is required.  Then a mock loses the `undefined` beside the
values of its properties, at every depth (`Expression.filled`), and nothing else is different: the
same schemas are made, the same imports are asked for, and what fails, fails alike
(`resolver_mirrors`).

A property is wrapped once, when its object is made, and moved afterwards by combinations.  So it is
enough that wrapping is undone (`filledProperties_ownProperties`) and that whatever moves an
expression does not look at what has been wrapped: each way of putting expressions together commutes
with filling them.

Undoing the wrapping must not take away an `undefined` that has come from somewhere else.  There is
none, because mocks are well-shaped, and this is the one place where it matters.
-/
import SchemaMock.Proofs.Missing
import SchemaMock.Proofs.Shapes
import SchemaMock.Proofs.Threading

namespace SchemaMock

/-! ## 1. Filled expressions -/

namespace Expression

/-- The value of a property that is there. -/
def present : Expression → Expression
  | .oneOf [e, .undefined] => e
  | e => e

mutual
/-- The expression with no property missing, at any depth. -/
def filled : Expression → Expression
  | .primitive text => .primitive text
  | .null => .null
  | .undefined => .undefined
  | .oneOf choices => .oneOf (filledAll choices)
  | .object properties => .object (filledProperties properties)
  | .array item min max => .array (filled item) min max

/-- Several expressions with no property missing. -/
def filledAll : List Expression → List Expression
  | [] => []
  | e :: rest => filled e :: filledAll rest

/-- Properties of which none is missing, with values in which none is. -/
def filledProperties : List (String × Expression) → List (String × Expression)
  | [] => []
  | (key, e) :: rest => (key, (filled e).present) :: filledProperties rest
end

theorem filledAll_eq : ∀ choices : List Expression, filledAll choices = choices.map filled
  | [] => rfl
  | e :: rest => by rw [filledAll, filledAll_eq rest, List.map_cons]

theorem filledProperties_eq : ∀ properties : List (String × Expression),
    filledProperties properties = properties.map fun e => (e.1, e.2.filled.present)
  | [] => rfl
  | (key, e) :: rest => by rw [filledProperties, filledProperties_eq rest, List.map_cons]

theorem filled_oneOf (choices : List Expression) :
    (oneOf choices).filled = .oneOf (choices.map filled) := by
  rw [filled, filledAll_eq]

theorem keys_filledProperties (properties : List (String × Expression)) :
    (filledProperties properties).map Prod.fst = properties.map Prod.fst := by
  rw [filledProperties_eq, List.map_map]
  rfl

/-- No well-shaped choice has `undefined` for its second alternative. -/
theorem present_filled {e : Expression} (h : WellShaped e) : e.filled.present = e.filled := by
  cases h with
  | primitive | null | object | array => rfl
  | @oneOf choices _ hchoices =>
    match choices, hchoices with
    | [] , _ => rfl
    | [_], _ => rfl
    | first :: second :: third :: rest, _ =>
      rw [filled_oneOf, List.map_cons, List.map_cons, List.map_cons]
      cases second.filled <;> rfl
    | [first, second], hchoices =>
      have hsecond := hchoices second (List.mem_cons_of_mem _ List.mem_cons_self)
      cases hsecond with
      | primitive | null | oneOf | object | array => rfl

/-- **Nothing is missing in a well-shaped expression once it has been filled.** -/
theorem not_occurs_undefined_filled {inner outer : Expression} (hoccurs : Occurs inner outer) :
    ∀ {e : Expression}, WellShaped e → outer = e.filled → inner ≠ .undefined := by
  induction hoccurs with
  | here =>
    rintro e h rfl
    cases h with
    | primitive | null | oneOf | object | array => exact nofun
  | choice hmem _ ih =>
    intro e h heq
    cases h with
    | primitive | null | object | array => cases heq
    | oneOf _ hchoices =>
      rw [filled_oneOf] at heq
      cases heq
      obtain ⟨choice, hchoice, rfl⟩ := List.mem_map.mp hmem
      exact ih (hchoices choice hchoice) rfl
  | property hmem _ ih =>
    intro e h heq
    cases h with
    | primitive | null | oneOf | array => cases heq
    | object hvalues =>
      rw [filled, filledProperties_eq] at heq
      cases heq
      obtain ⟨property, hproperty, hsame⟩ := List.mem_map.mp hmem
      cases hsame
      have hshaped := hvalues property.2 (List.mem_map_of_mem hproperty)
      generalize property.2 = value at hshaped ih
      cases hshaped with
      | present hvalue => exact ih hvalue (present_filled hvalue)
      | optional hvalue => exact ih hvalue rfl
  | item _ ih =>
    intro e h heq
    cases h with
    | primitive | null | oneOf | object => cases heq
    | array _ hitem =>
      cases heq
      exact ih hitem rfl

/-! ## 2. What is put together -/

theorem filled_orNull (e : Expression) (nullable : Bool) :
    (e.orNull nullable).filled = e.filled.orNull nullable := by
  rw [orNull, orNull]
  split
  · rfl
  · rfl

/-- **Filling undoes the wrapping of a property.** -/
theorem present_filled_orUndefined {e : Expression} (h : WellShaped e) (isOptional : Bool) :
    (e.orUndefined isOptional).filled.present = e.filled := by
  rw [orUndefined]
  split
  · rfl
  · exact present_filled h

/-- Whether an expression is an object, or an object or `null`, does not depend on whether its
properties may be missing. -/
theorem properties?_filled (e : Expression) :
    e.filled.properties? = e.properties?.map filledProperties := by
  cases e with
  | primitive | null | undefined | object | array => rfl
  | oneOf choices =>
    match choices with
    | [] => rfl
    | [first] => cases first <;> rfl
    | [first, second] => cases first <;> cases second <;> rfl
    | first :: second :: _ :: _ => cases first <;> cases second <;> rfl

theorem filled_behind (own : List (String × Expression)) (e : Expression) :
    (e.behind own).filled = e.filled.behind (filledProperties own) := by
  cases e with
  | primitive | null | undefined | oneOf | array => rfl
  | object properties =>
    simp only [behind, filled, filledProperties_eq, List.map_append]

theorem filled_chosen (own : List (String × Expression)) (choices : List Expression) :
    (chosen own choices).filled = chosen (filledProperties own) (choices.map filled) := by
  match choices with
  | [] => rfl
  | [e] => rfl
  | first :: second :: rest => exact filled_oneOf _

theorem filled_plainSchema (settings : Settings) (keywords : Keywords) :
    (PlainSchema.expression settings keywords).filled
      = PlainSchema.expression settings keywords := by
  rcases PlainSchema.expression_cases settings keywords with h | ⟨text, h, -⟩
  · rw [h]
    rfl
  · rw [h]
    rfl

end Expression

open Expression (filledProperties filledProperties_eq)

/-- The mock with no property missing. -/
def Mock.filled (mock : Mock) : Mock := { mock with expression := mock.expression.filled }

/-- Named mocks with no property missing. -/
def filledMocks (mocks : List (String × Mock)) : List (String × Mock) :=
  mocks.map fun e => (e.1, e.2.filled)

/-- The settings but for whether every property is required. -/
def Settings.requiring (settings : Settings) (required : Bool) : Settings :=
  { settings with required := required }

/-- What options say of it is all that is different between the settings that are read from them. -/
theorem Settings.ofOptions_requiring (engine : PatternEngine) (options : Options)
    (required : Bool) :
    Settings.ofOptions engine { options with required := required }
      = (Settings.ofOptions engine options).map (·.requiring required) := by
  rw [ofOptions, ofOptions]
  split
  · rfl
  · cases tablesOf engine options.operations with
    | error fault => rfl
    | ok operations =>
      cases tablesOf engine options.tags with
      | error fault => rfl
      | ok tags => cases RuleTable.ofEntries engine options.rules <;> rfl

/-- **Properties that must be there are those that need not, filled.** -/
theorem filledProperties_ownProperties (settings : Settings) (required : List String)
    {mocks : List (String × Mock)}
    (h : ∀ mock ∈ mocks.map Prod.snd, mock.expression.WellShaped) :
    filledProperties (ownProperties (settings.requiring false) required mocks)
      = ownProperties (settings.requiring true) required (filledMocks mocks) := by
  simp only [filledProperties_eq, ownProperties, filledMocks, List.map_map]
  refine List.map_congr_left fun e he => ?_
  have hshaped := h e.2 (List.mem_map_of_mem he)
  exact congrArg (Prod.mk e.1) (Expression.present_filled_orUndefined hshaped _)

theorem importsOf_filledMocks (mocks : List (String × Mock)) :
    importsOf ((filledMocks mocks).map Prod.snd) = importsOf (mocks.map Prod.snd) := by
  simp only [importsOf, filledMocks, List.map_map, List.foldl_map]
  rfl

theorem filled_composedMock (placed : PlacedSchema) (e : Expression) (imports : List Import) :
    (composedMock placed e imports).filled = composedMock placed e.filled imports := by
  rw [Mock.filled, composedMock, composedMock, Expression.filled_orNull]

theorem Schema.filled_typed (schema : Schema) (mock : Mock) :
    (schema.typed mock).filled = schema.typed mock.filled := by
  cases schema <;> rfl

namespace Merge

/-- The merge with no property missing. -/
def filled (merge : Merge) : Merge :=
  { merge with
    properties := filledProperties merge.properties
    other := merge.other.map Expression.filled }

theorem filled_addProperty (merge : Merge) (property : String × Expression) :
    (merge.addProperty property).filled
      = merge.filled.addProperty (property.1, property.2.filled.present) := by
  have hemitted : merge.filled.emitted = merge.emitted := rfl
  rw [addProperty, addProperty, hemitted]
  split
  · rfl
  · simp only [filled, filledProperties_eq, List.map_append, List.map_cons, List.map_nil]

theorem filled_foldl_addProperty (properties : List (String × Expression)) (merge : Merge) :
    (properties.foldl addProperty merge).filled
      = (filledProperties properties).foldl addProperty merge.filled := by
  induction properties generalizing merge with
  | nil => rfl
  | cons property rest ih =>
    rw [List.foldl_cons, ih, filled_addProperty]
    rfl

/-- **A member is merged alike**, whether its properties may be missing or not. -/
theorem filled_addMember (merge : Merge) (mock : Mock) :
    (merge.addMember mock).filled = merge.filled.addMember mock.filled := by
  have hproperties : mock.filled.expression.properties?
      = mock.expression.properties?.map filledProperties :=
    Expression.properties?_filled mock.expression
  rw [addMember, addMember, hproperties]
  cases mock.expression.properties? with
  | none => rfl
  | some properties => exact filled_foldl_addProperty properties _

theorem expression_filled (merge : Merge) : merge.filled.expression = merge.expression.filled := by
  obtain ⟨emitted, properties, other, imports⟩ := merge
  cases other with
  | none => rfl
  | some e =>
    cases properties with
    | nil => rfl
    | cons => rfl

end Merge

/-! ## 3. Resolutions side by side -/

/-- Whatever the trace is, both resolutions ask for the same imports, and the second comes to what
`f` makes of what the first comes to, or fails like it. -/
def Mirrors {α β : Type} (f : α → β) (x : Resolve α) (y : Resolve β) : Prop :=
  ∃ result imports events events', x.Leaves result imports events ∧
    y.Leaves (result.map f) imports events'

section Mirrors

variable {α β γ δ : Type} {f : α → β} {g : γ → δ}

theorem mirrors_pure {a : α} {b : β} (h : f a = b) : Mirrors f (pure a) (pure b) := by
  subst h
  exact ⟨.ok a, [], [], [], Resolve.leaves_pure a, Resolve.leaves_pure (f a)⟩

theorem mirrors_throw (fault : MockFault) : Mirrors f (throw fault) (throw fault) :=
  ⟨.error fault, [], [], [], Resolve.leaves_throw fault, Resolve.leaves_throw fault⟩

theorem mirrors_record (event event' : Event) :
    Mirrors id (Resolve.record event) (Resolve.record event') :=
  ⟨.ok (), [], [event], [event'], Resolve.leaves_record event, Resolve.leaves_record event'⟩

theorem mirrors_request (new : Import) : Mirrors id (Resolve.request new) (Resolve.request new) :=
  ⟨.ok (), [new], [], [], Resolve.leaves_request new, Resolve.leaves_request new⟩

namespace Mirrors

variable {x : Resolve α} {y : Resolve β}

theorem bind {next : α → Resolve γ} {next' : β → Resolve δ} (h : Mirrors f x y)
    (hnext : ∀ a, x.Gives a → Mirrors g (next a) (next' (f a))) :
    Mirrors g (x >>= next) (y >>= next') := by
  obtain ⟨result, imports, events, events', hleft, hright⟩ := h
  cases result with
  | error fault =>
    exact ⟨.error fault, imports, events, events', hleft.bind_error, hright.bind_error⟩
  | ok a =>
    obtain ⟨result', imports', more, more', hleft', hright'⟩ :=
      hnext a ⟨.empty, _, hleft .empty⟩
    exact ⟨result', imports ++ imports', events ++ more, events' ++ more',
      hleft.bind_ok hleft', hright.bind_ok hright'⟩

theorem map {k : α → γ} {k' : β → δ} (h : Mirrors f x y) (hk : ∀ a, g (k a) = k' (f a)) :
    Mirrors g (k <$> x) (k' <$> y) := by
  rw [map_eq_pure_bind, map_eq_pure_bind]
  exact h.bind fun a _ => mirrors_pure (hk a)

theorem outcome (h : Mirrors f x y) (trace : Trace) :
    (y.outcome trace).1 = (x.outcome trace).1.map f ∧
      (y.outcome trace).2.imports = (x.outcome trace).2.imports := by
  obtain ⟨result, imports, events, events', hleft, hright⟩ := h
  rw [hleft trace, hright trace]
  exact ⟨rfl, rfl⟩

end Mirrors

end Mirrors

/-- The environment but for whether every property is required. -/
def Environment.requiring (env : Environment) (required : Bool) : Environment :=
  { env with settings := env.settings.requiring required }

/-- Asked in an environment, the resolution is the same but for properties that may be missing. -/
def FillsIn (env : Environment) (placed : PlacedSchema) : Prop :=
  ∀ membership, Mirrors Mock.filled (resolver (env.requiring false) membership placed)
    (resolver (env.requiring true) membership placed)

section Parts

variable {env : Environment} {site : Site}

theorem askProperties_mirrors (emitted : List String) :
    ∀ {properties : List (String × Schema)},
      (∀ part ∈ properties.map Prod.snd, ∀ site, FillsIn env ⟨part, site, none⟩) →
      Mirrors filledMocks (askProperties resolver (env.requiring false) emitted site properties)
        (askProperties resolver (env.requiring true) emitted site properties)
  | [], _ => mirrors_pure rfl
  | (key, schema) :: rest, h => by
    obtain ⟨hfirst, hrest⟩ := List.forall_mem_cons.mp h
    have ih := askProperties_mirrors emitted hrest
    simp only [askProperties]
    split
    · exact ih
    · refine (hfirst (site.property key) none).bind fun mock _ => ?_
      exact ih.bind fun mocks _ => mirrors_pure rfl

theorem askMerged_mirrors : ∀ {members : List Schema} (merge : Merge),
    (∀ member ∈ members, ∀ site, FillsIn env ⟨member, site, none⟩) →
    Mirrors Merge.filled (askMerged resolver (env.requiring false) site members merge)
      (askMerged resolver (env.requiring true) site members merge.filled)
  | [], _, _ => mirrors_pure rfl
  | member :: rest, merge, h => by
    obtain ⟨hfirst, hrest⟩ := List.forall_mem_cons.mp h
    simp only [askMerged]
    refine (hfirst site _).bind fun mock _ => ?_
    rw [← Merge.filled_addMember]
    exact askMerged_mirrors (merge.addMember mock) hrest

theorem askVariants_mirrors (membership : Membership) : ∀ {members : List Schema},
    (∀ member ∈ members, ∀ site, FillsIn env ⟨member, site, none⟩) →
    Mirrors (List.map Mock.filled)
      (askVariants resolver (env.requiring false) membership site members)
      (askVariants resolver (env.requiring true) membership site members)
  | [], _ => mirrors_pure rfl
  | member :: rest, h => by
    obtain ⟨hfirst, hrest⟩ := List.forall_mem_cons.mp h
    simp only [askVariants]
    refine (hfirst site _).bind fun mock _ => ?_
    exact (askVariants_mirrors membership hrest).bind fun mocks _ => mirrors_pure rfl

end Parts

/-! ## 4. Layers -/

theorem tellMade_eq (target : Reference) (schema : Schema) (made : Resolve Mock) :
    tellMade target schema made
      = (schema.typed <$> made) >>= fun mock =>
          Resolve.record (.reference target mock) >>= fun _ => pure mock := by
  simp only [tellMade, bind_map_left]

section Layers

variable {env : Environment} {placed : PlacedSchema}

/-- What settles a schema has no properties. -/
theorem settledOr_mirrors {x y : Resolve Mock} (h : Mirrors Mock.filled x y) :
    Mirrors Mock.filled (settledOr (env.requiring false) placed x)
      (settledOr (env.requiring true) placed y) := by
  have hrules : ∀ required, (env.requiring required).rules = env.rules := fun _ => rfl
  have hexamples : ∀ required,
      (env.requiring required).settings.useExamples = env.settings.useExamples := fun _ => rfl
  simp only [settledOr, ActiveRules.mock?_eq, hrules, hexamples]
  cases env.rules.inOrder.first? placed.site with
  | some rule =>
    refine (mirrors_record _ _).bind fun _ _ => mirrors_pure ?_
    simp only [Mock.filled, Rule.mock, Expression.filled_orNull, Expression.filled]
  | none =>
    simp only [Option.map_none]
    split
    · refine mirrors_pure ?_
      simp only [Mock.filled, constantMock, Mock.ofExpression, Expression.filled_orNull,
        Expression.filled]
    · exact h

theorem plainMock_mirrors :
    Mirrors Mock.filled (plainMock (env.requiring false) placed)
      (plainMock (env.requiring true) placed) := by
  have hsettings : ∀ required keywords,
      PlainSchema.expression (env.requiring required).settings keywords
        = PlainSchema.expression env.settings keywords := fun _ _ => rfl
  have hkey : ∀ required, (env.requiring required).documentKey = env.documentKey := fun _ => rfl
  simp only [plainMock, enumerationMock, hsettings, hkey]
  split
  · split
    · refine (mirrors_request _).bind fun _ _ => mirrors_pure ?_
      simp only [Mock.filled, Expression.filled_orNull, Expression.filled]
    · refine mirrors_pure ?_
      simp only [Mock.filled, Mock.ofExpression, Expression.filled_orNull, Expression.filled]
  · refine mirrors_pure ?_
    simp only [Mock.filled, Mock.ofExpression, Expression.filled_orNull,
      Expression.filled_plainSchema]

/-- Whatever properties come to is well-shaped. -/
theorem wellShaped_of_askProperties {emitted : List String} {site : Site}
    {properties : List (String × Schema)} {mocks : List (String × Mock)}
    (h : (askProperties resolver env emitted site properties).Gives mocks) :
    ∀ mock ∈ mocks.map Prod.snd, mock.expression.WellShaped :=
  wellShaped_answers (fun _ _ _ _ => resolver_wellShaped) (answersProperties_of_gives h)

theorem combineWith_mirrors (membership : Option Membership) (combinator : Combinator)
    {members : List Schema} {mocks : List (String × Mock)}
    (hshaped : ∀ mock ∈ mocks.map Prod.snd, mock.expression.WellShaped)
    (h : ∀ member ∈ members, ∀ site, FillsIn env ⟨member, site, none⟩) :
    Mirrors Mock.filled
      (combineWith resolver (env.requiring false) membership placed combinator members mocks)
      (combineWith resolver (env.requiring true) membership placed combinator members
        (filledMocks mocks)) := by
  have hown := filledProperties_ownProperties env.settings
    (Keywords.required placed.schema.keywords) hshaped
  have hsettings : ∀ required,
      (env.requiring required).settings = env.settings.requiring required := fun _ => rfl
  simp only [combineWith, importsOf_filledMocks, hsettings, ← hown,
    Expression.keys_filledProperties]
  generalize ownProperties (env.settings.requiring false)
    (Keywords.required placed.schema.keywords) mocks = own
  have hvariants : ∀ combinator, Mirrors Mock.filled
      (do
        let variants ← askVariants resolver (env.requiring false)
          ⟨combinator, emittedNames membership ++ own.map Prod.fst⟩ placed.site members
        pure (composedMock placed
          (.chosen own (variants.map fun mock => mock.expression.behind own))
          (importsBehind (importsOf (mocks.map Prod.snd)) variants)))
      (do
        let variants ← askVariants resolver (env.requiring true)
          ⟨combinator, emittedNames membership ++ own.map Prod.fst⟩ placed.site members
        pure (composedMock placed
          (.chosen (filledProperties own)
            (variants.map fun mock => mock.expression.behind (filledProperties own)))
          (importsBehind (importsOf (mocks.map Prod.snd)) variants))) := by
    intro combinator
    refine (askVariants_mirrors _ h).bind fun variants _ => mirrors_pure ?_
    rw [filled_composedMock, Expression.filled_chosen, importsBehind, importsBehind,
      List.foldl_map, List.map_map, List.map_map]
    simp only [Function.comp_def, Expression.filled_behind]
    rfl
  cases combinator with
  | allOf =>
    refine (askMerged_mirrors ⟨_, own, none, _⟩ h).bind fun merge _ => mirrors_pure ?_
    rw [filled_composedMock, Merge.expression_filled]
    rfl
  | oneOf => exact hvariants .oneOf
  | anyOf => exact hvariants .anyOf

/-- A schema that nothing settles is made alike if its parts are. -/
theorem askParts_mirrors (membership : Option Membership)
    (hinline : placed.schema.reference? = none)
    (h : ∀ part ∈ placed.schema.parts, ∀ site, FillsIn env ⟨part, site, none⟩) :
    Mirrors Mock.filled (askParts resolver (env.requiring false) membership placed)
      (askParts resolver (env.requiring true) membership placed) := by
  obtain ⟨schema, site, definition⟩ := placed
  cases schema with
  | reference target => cases hinline
  | plain keywords => exact plainMock_mirrors
  | array keywords items =>
    refine (h items List.mem_cons_self site.item none).bind fun item _ => mirrors_pure ?_
    exact filled_composedMock _ _ _
  | object keywords properties =>
    refine (askProperties_mirrors _ h).bind fun mocks hgives => mirrors_pure ?_
    have hown := filledProperties_ownProperties env.settings (Keywords.required keywords)
      (wellShaped_of_askProperties hgives)
    rw [filled_composedMock, importsOf_filledMocks]
    exact congrArg (fun own => composedMock _ (.object own) _) hown
  | combined keywords combinator properties members =>
    simp only [askParts, askCombined]
    obtain ⟨hproperties, hmembers⟩ := List.forall_mem_append.mp h
    refine (askProperties_mirrors _ hproperties).bind fun mocks hgives => ?_
    exact combineWith_mirrors membership combinator (wellShaped_of_askProperties hgives) hmembers

theorem fillsIn_of_parts (hinline : placed.schema.reference? = none)
    (h : ∀ part ∈ placed.schema.parts, ∀ site, FillsIn env ⟨part, site, none⟩) :
    FillsIn env placed := by
  intro membership
  rw [resolver_of_inline _ _ hinline, resolver_of_inline _ _ hinline,
    makeLayer_eq_settledOr _ _ hinline, makeLayer_eq_settledOr _ _ hinline]
  exact (settledOr_mirrors (askParts_mirrors membership hinline h)).map (Schema.filled_typed _)

/-- The same references are followed, to the same targets. -/
theorem fillsIn_reference {reference : String} {site : Site} {definition : Option String}
    (h : (env.target reference).address ∉ env.chain →
      FillsIn (env.inside reference) (env.followed reference site)) :
    FillsIn env ⟨.reference reference, site, definition⟩ := by
  intro membership
  rw [resolver_reference, resolver_reference]
  have hchain : ∀ required, ((env.requiring required).target reference).address
      ∈ (env.requiring required).chain ↔ (env.target reference).address ∈ env.chain :=
    fun _ => Iff.rfl
  by_cases hmem : (env.target reference).address ∈ env.chain
  · rw [followLayer_of_mem ((hchain false).mpr hmem), followLayer_of_mem ((hchain true).mpr hmem)]
    exact mirrors_throw _
  · have htarget := h hmem membership
    rw [resolver_eq_typed, resolver_eq_typed] at htarget
    obtain ⟨result, imports, events, events', hleft, hright⟩ :
        Mirrors Mock.filled
          (tellMade (.read reference env.documentKey) (env.followed reference site).schema
            (makeLayer resolver ((env.requiring false).inside reference) membership
              (env.followed reference site)))
          (tellMade (.read reference env.documentKey) (env.followed reference site).schema
            (makeLayer resolver ((env.requiring true).inside reference) membership
              (env.followed reference site))) := by
      rw [tellMade_eq, tellMade_eq]
      exact htarget.bind fun mock _ => (mirrors_record _ _).bind fun _ _ => mirrors_pure rfl
    exact ⟨result, imports, _, _, leaves_followBy ((hchain false).not.mpr hmem) hleft,
      leaves_followBy ((hchain true).not.mpr hmem) hright⟩

end Layers

/-- **Requiring every property fills the mock, and changes nothing else.** -/
theorem resolver_mirrors (env : Environment) (placed : PlacedSchema) : FillsIn env placed :=
  questions_induction (motive := FillsIn)
    (fun _ _ hinline hparts => fillsIn_of_parts hinline hparts)
    (fun _ _ _ _ htarget => fillsIn_reference htarget) env placed

/-- **That every property is required only removes what may be missing.**  Two settings that differ
in it alone give the same answer for every schema, wherever it is resolved: the same fault, or
mocks that differ in the `undefined` beside the values of properties and in nothing else, with the
same imports asked for.  Where every property is required, no `undefined` is left. -/
theorem requiring_only_removes_undefined (env : Environment) (membership : Option Membership)
    (placed : PlacedSchema) (trace : Trace) :
    let run := fun required =>
      (placed.resolve mockResolver (env.requiring required) membership).outcome trace
    (run true).1 = (run false).1.map Mock.filled ∧
      (run true).2.imports = (run false).2.imports ∧
      ∀ mock, (run true).1 = .ok mock → ¬ Expression.Occurs .undefined mock.expression := by
  intro run
  obtain ⟨hresult, himports⟩ := (resolver_mirrors env placed membership).outcome trace
  refine ⟨hresult, himports, fun mock hmock hoccurs => ?_⟩
  -- the mock is the filled one of a mock that was made, and that one is well-shaped
  have hfilled : (run false).1.map Mock.filled = .ok mock := hresult.symm.trans hmock
  rcases hrun : run false with ⟨result, after⟩
  rw [hrun] at hfilled
  cases result with
  | error fault => cases hfilled
  | ok optional =>
    cases hfilled
    have hshaped : optional.expression.WellShaped := resolver_wellShaped ⟨trace, after, hrun⟩
    exact Expression.not_occurs_undefined_filled hoccurs hshaped rfl rfl

/-- A pet with an owner, either of which need not have a name. -/
def petWithOwner : PlacedSchema :=
  .ofJson (.obj [("allOf", .arr [
    .obj [("properties", .obj [("name", referenceNode "#/components/schemas/Label")])],
    .obj [("properties", .obj [("owner", .obj [("properties",
      .obj [("name", referenceNode "#/components/schemas/Label")])])])]])]) ⟨"", none⟩

/-- The pet has what may be missing twice, one inside the other, and neither when every property is
required. -/
theorem requiring_only_removes_undefined_pet :
    ∃ optional required,
      ((petWithOwner.resolve mockResolver (listEnvironment.requiring false) none).outcome .empty).1
        = .ok optional ∧
      ((petWithOwner.resolve mockResolver (listEnvironment.requiring true) none).outcome .empty).1
        = .ok required ∧
      Expression.Occurs .undefined optional.expression ∧
      required = optional.filled ∧ ¬ Expression.Occurs .undefined required.expression := by
  obtain ⟨hresult, -, hnone⟩ :=
    requiring_only_removes_undefined listEnvironment none petWithOwner .empty
  have hoptional :
      ((petWithOwner.resolve mockResolver (listEnvironment.requiring false) none).outcome .empty).1
        = .ok _ := rfl
  have hrequired :
      ((petWithOwner.resolve mockResolver (listEnvironment.requiring true) none).outcome .empty).1
        = .ok _ := rfl
  have hsame := hrequired.symm.trans (hresult.trans (congrArg (Except.map Mock.filled) hoptional))
  refine ⟨_, _, hoptional, hrequired, ?_, Except.ok.inj hsame, hnone _ hrequired⟩
  exact .property (List.mem_cons_of_mem _ List.mem_cons_self)
    (.choice List.mem_cons_self
      (.property List.mem_cons_self
        (.choice (List.mem_cons_of_mem _ List.mem_cons_self) (.here _))))

end SchemaMock
