/-
# Null beside everything else

A schema can say in three ways that `null` is a value too: by the keyword `nullable`, and by a type
array with `null` behind or in front of the type.  Whichever way it takes, its mock is the one that
it would have without, or `null`: the choice is put around the whole expression, once, and nothing
else about the mock is different.

All that a layer reads of the keywords, apart from this, is what stands under other keywords and the
declared type (`Keywords.WithNull`).  So the parts are asked for alike, the same answers come, and
what is made of them differs by the choice (`askParts_withKeywords`).
-/
import SchemaMock.Proofs.Overrides

namespace SchemaMock

/-! ## 1. Ways of saying it -/

namespace Keywords

/-- The keywords `more` say what `keywords` do, and that `null` is a value too. -/
structure WithNull (keywords more : Keywords) : Prop where
  get?_eq : ∀ key, key ≠ "nullable" → key ≠ "type" →
    Entries.get? key more = Entries.get? key keywords
  type?_eq : type? more = type? keywords
  nullable_eq_false : nullable keywords = false
  nullable_eq_true : nullable more = true

/-- The ways in which keywords can be made to say that `null` is a value too. -/
inductive SaysNull (keywords : Keywords) : Keywords → Prop
  | keyword : SaysNull keywords (Entries.put "nullable" (.bool true) keywords)
  | behind {type : InstanceType} (h : Entries.get? "type" keywords = some (.str type.name)) :
      SaysNull keywords (Entries.put "type" (.arr [.str type.name, .str "null"]) keywords)
  | inFront {type : InstanceType} (h : Entries.get? "type" keywords = some (.str type.name)) :
      SaysNull keywords (Entries.put "type" (.arr [.str "null", .str type.name]) keywords)

/-- A type array of a type and `null` declares the type, also where that is `null` itself. -/
theorem type?_put_array {keywords : Keywords} {types : List Json} {type : InstanceType}
    (h : Entries.get? "type" keywords = some (.str type.name))
    (htypes : types = [.str type.name, .str "null"] ∨ types = [.str "null", .str type.name]) :
    type? (Entries.put "type" (.arr types) keywords) = type? keywords := by
  simp only [type?, Entries.get?_put_self, h, InstanceType.ofName?_name]
  rcases htypes with rfl | rfl
  · cases type <;> rfl
  · cases type <;> rfl

/-- A type array with `null` beside something else says that `null` is a value. -/
theorem nullable_put_array {keywords : Keywords} {types : List Json} (hlength : 1 < types.length)
    (hnull : .str "null" ∈ types) :
    nullable (Entries.put "type" (.arr types) keywords) = true := by
  have hany : (types.any fun t => t.text? == some "null") = true :=
    List.any_eq_true.mpr ⟨_, hnull, rfl⟩
  simp only [nullable, Entries.get?_put_self, hlength, hany]
  split <;> rfl

/-- **Each way of saying it says nothing else.** -/
theorem SaysNull.withNull {keywords more : Keywords} (h : SaysNull keywords more)
    (hnullable : nullable keywords = false) : WithNull keywords more := by
  cases h with
  | keyword =>
    constructor
    case get?_eq => exact fun key hkey _ => Entries.get?_put_of_ne hkey
    case type?_eq => rw [type?, type?, Entries.get?_put_of_ne (by decide)]
    case nullable_eq_false => exact hnullable
    case nullable_eq_true => simp [nullable, Entries.get?_put_self, Json.bool?]
  | behind htype =>
    constructor
    case get?_eq => exact fun key _ hkey => Entries.get?_put_of_ne hkey
    case type?_eq => exact type?_put_array htype (Or.inl rfl)
    case nullable_eq_false => exact hnullable
    case nullable_eq_true => exact nullable_put_array Nat.one_lt_two (by simp)
  | inFront htype =>
    constructor
    case get?_eq => exact fun key _ hkey => Entries.get?_put_of_ne hkey
    case type?_eq => exact type?_put_array htype (Or.inr rfl)
    case nullable_eq_false => exact hnullable
    case nullable_eq_true => exact nullable_put_array Nat.one_lt_two (by simp)

namespace WithNull

variable {keywords more : Keywords} (h : WithNull keywords more)

include h

theorem reference?_eq : reference? more = reference? keywords := by
  rw [reference?, reference?, h.get?_eq _ (by decide) (by decide)]

theorem format?_eq : format? more = format? keywords := by
  rw [format?, format?, h.get?_eq _ (by decide) (by decide)]

theorem required_eq : required more = required keywords := by
  rw [required, required, h.get?_eq _ (by decide) (by decide)]

theorem enumeration?_eq : enumeration? more = enumeration? keywords := by
  rw [enumeration?, enumeration?, h.get?_eq _ (by decide) (by decide)]

theorem get?_keyword (c : Combinator) :
    Entries.get? c.keyword more = Entries.get? c.keyword keywords := by
  cases c <;> exact h.get?_eq _ (by decide) (by decide)

theorem combinator?_eq : combinator? more = combinator? keywords := by
  simp only [combinator?, members?, h.get?_keyword]

theorem kind_eq : Schema.kind more = Schema.kind keywords := by
  rw [Schema.kind, Schema.kind, h.get?_eq "const" (by decide) (by decide), h.combinator?_eq,
    h.enumeration?_eq, h.type?_eq, h.format?_eq]

theorem itemBounds_eq (settings : Settings) :
    itemBounds settings more = itemBounds settings keywords := by
  have hmin := h.get?_eq "minItems" (by decide) (by decide)
  have hmax := h.get?_eq "maxItems" (by decide) (by decide)
  simp only [itemBounds, hmin, hmax]

theorem bounds?_eq (minKeyword maxKeyword : String)
    (hmin : minKeyword ≠ "nullable" ∧ minKeyword ≠ "type")
    (hmax : maxKeyword ≠ "nullable" ∧ maxKeyword ≠ "type") :
    PlainSchema.bounds? more minKeyword maxKeyword
      = PlainSchema.bounds? keywords minKeyword maxKeyword := by
  rw [PlainSchema.bounds?, PlainSchema.bounds?, PlainSchema.bound?, PlainSchema.bound?,
    PlainSchema.bound?, PlainSchema.bound?, h.get?_eq minKeyword hmin.1 hmin.2,
    h.get?_eq maxKeyword hmax.1 hmax.2]

theorem text_eq : PlainSchema.text more = PlainSchema.text keywords := by
  rw [PlainSchema.text, PlainSchema.text, h.get?_eq "pattern" (by decide) (by decide),
    h.bounds?_eq _ _ (by decide) (by decide)]

/-- What is made of a schema without parts does not show whether `null` is a value too. -/
theorem expression_eq (settings : Settings) :
    PlainSchema.expression settings more = PlainSchema.expression settings keywords := by
  have htype : PlainSchema.ofType more = PlainSchema.ofType keywords := by
    funext type
    have hbounds := h.bounds?_eq "minimum" "maximum" (by decide) (by decide)
    unfold PlainSchema.ofType
    rw [hbounds, h.text_eq]
  rw [PlainSchema.expression, PlainSchema.expression, h.type?_eq, h.format?_eq, htype]

end WithNull

end Keywords

/-! ## 2. Schemas -/

namespace Schema

/-- The schema with other keywords, read as before: same kind, same parts. -/
def withKeywords (more : Keywords) : Schema → Schema
  | .reference target => .reference target
  | .combined _ combinator properties members => .combined more combinator properties members
  | .array _ items => .array more items
  | .object _ properties => .object more properties
  | .plain _ => .plain more

theorem keywords_withKeywords {schema : Schema} (hinline : schema.reference? = none)
    (more : Keywords) : (schema.withKeywords more).keywords = more := by
  cases schema with
  | reference target => cases hinline
  | plain | array | object | combined => rfl

theorem reference?_withKeywords (schema : Schema) (more : Keywords) :
    (schema.withKeywords more).reference? = schema.reference? := by
  cases schema <;> rfl

/-- An inline node that says `null` as well holds the same schema with its own keywords. -/
theorem ofJson_withNull {keywords more : Keywords} (h : keywords.WithNull more) :
    ofJson (.obj more) = (ofJson (.obj keywords)).withKeywords more := by
  have hproperties : propertiesIn more = propertiesIn keywords := by
    rw [propertiesIn_eq, propertiesIn_eq, h.get?_eq _ (by decide) (by decide)]
  have hitems : itemsIn more = itemsIn keywords := by
    rw [itemsIn_eq, itemsIn_eq, h.get?_eq _ (by decide) (by decide)]
  have hmembers : ∀ c : Combinator, membersIn c.keyword more = membersIn c.keyword keywords := by
    intro c
    rw [membersIn_eq, membersIn_eq, h.get?_keyword]
  simp only [ofJson, h.reference?_eq, h.kind_eq, hproperties, hitems, hmembers]
  cases Keywords.reference? keywords with
  | some target => rfl
  | none => cases kind keywords <;> rfl

theorem typed_of_inline {schema : Schema} (hinline : schema.reference? = none) (mock : Mock) :
    schema.typed mock = { mock with type := schema.type? } := by
  cases schema with
  | reference target => cases hinline
  | plain | array | object | combined => rfl

theorem keywords_ofJson {keywords : Keywords} (h : Keywords.reference? keywords = none) :
    (ofJson (.obj keywords)).reference? = none ∧ (ofJson (.obj keywords)).keywords = keywords := by
  simp only [ofJson, h]
  cases kind keywords <;> exact ⟨rfl, rfl⟩

end Schema

/-! ## 3. Mocks -/

/-- The mock with `null` beside its expression. -/
def Mock.withNull (mock : Mock) : Mock :=
  { mock with expression := .oneOf [mock.expression, .null] }

namespace Resolve

/-- What `x'` comes to is what `x` comes to, but for `null` beside the expression, and it imports
the same. -/
def PutsNull (x x' : Resolve Mock) : Prop :=
  ∀ trace, (x'.outcome trace).1 = (x.outcome trace).1.map Mock.withNull ∧
    (x'.outcome trace).2.imports = (x.outcome trace).2.imports

theorem putsNull_map (x : Resolve Mock) : PutsNull x (Mock.withNull <$> x) := by
  intro trace
  rw [map_eq_pure_bind, outcome_bind]
  rcases x.outcome trace with ⟨fault | mock, after⟩
  · exact ⟨rfl, rfl⟩
  · exact ⟨rfl, rfl⟩

theorem putsNull_pure (mock : Mock) : PutsNull (pure mock) (pure mock.withNull) :=
  fun _ => ⟨rfl, rfl⟩

/-- A step that does not look at expressions can follow. -/
theorem PutsNull.map {x x' : Resolve Mock} (h : PutsNull x x') {f f' : Mock → Mock}
    (hf : ∀ mock, f' mock.withNull = (f mock).withNull) : PutsNull (f <$> x) (f' <$> x') := by
  intro trace
  obtain ⟨hresult, himports⟩ := h trace
  rw [map_eq_pure_bind, map_eq_pure_bind, outcome_bind, outcome_bind]
  rcases hx : x.outcome trace with ⟨fault | mock, after⟩
  · rcases hx' : x'.outcome trace with ⟨result', after'⟩
    rw [hx, hx'] at hresult himports
    cases hresult
    exact ⟨rfl, himports⟩
  · rcases hx' : x'.outcome trace with ⟨result', after'⟩
    rw [hx, hx'] at hresult himports
    cases hresult
    exact ⟨congrArg Except.ok (hf mock), himports⟩

end Resolve

open Resolve (PutsNull putsNull_map putsNull_pure)

section Layers

variable {schema : Schema} {more : Keywords} (h : schema.keywords.WithNull more)
  (hinline : schema.reference? = none)

include h hinline

theorem orNull_withKeywords (e : Expression) :
    e.orNull (schema.withKeywords more).nullable = .oneOf [e.orNull schema.nullable, .null] := by
  rw [Schema.nullable, Schema.nullable, Schema.keywords_withKeywords hinline, h.nullable_eq_true,
    h.nullable_eq_false]
  rfl

theorem type?_withKeywords : (schema.withKeywords more).type? = schema.type? := by
  rw [Schema.type?, Schema.type?, Schema.keywords_withKeywords hinline, h.type?_eq]

theorem composedMock_withKeywords (site : Site) (definition : Option String) (e : Expression)
    (imports : List Import) :
    composedMock ⟨schema.withKeywords more, site, definition⟩ e imports
      = (composedMock ⟨schema, site, definition⟩ e imports).withNull := by
  rw [composedMock, composedMock, orNull_withKeywords h hinline]
  rfl

theorem ruleMock_withKeywords (rule : Rule) (site : Site) (definition : Option String) :
    rule.mock ⟨schema.withKeywords more, site, definition⟩
      = (rule.mock ⟨schema, site, definition⟩).withNull := by
  rw [Rule.mock, Rule.mock, orNull_withKeywords h hinline]
  rfl

theorem constantMock_withKeywords (value : Json) (site : Site) (definition : Option String) :
    constantMock ⟨schema.withKeywords more, site, definition⟩ value
      = (constantMock ⟨schema, site, definition⟩ value).withNull := by
  rw [constantMock, constantMock, orNull_withKeywords h hinline]
  rfl

/-- A schema without parts, be it an enumeration or not. -/
theorem plainMock_withKeywords (env : Environment) (site : Site) (definition : Option String) :
    plainMock env ⟨schema.withKeywords more, site, definition⟩
      = Mock.withNull <$> plainMock env ⟨schema, site, definition⟩ := by
  have hkeywords := Schema.keywords_withKeywords hinline more
  simp only [plainMock, enumerationMock, hkeywords, h.enumeration?_eq, h.expression_eq,
    orNull_withKeywords h hinline]
  cases Keywords.enumeration? schema.keywords with
  | none => rfl
  | some values =>
    cases definition with
    | none => rfl
    | some name => rfl

/-- **The parts are asked for alike, and the choice is put around what is made of them.** -/
theorem askParts_withKeywords (ask : Resolver) (env : Environment)
    (membership : Option Membership) (site : Site) (definition : Option String) :
    askParts ask env membership ⟨schema.withKeywords more, site, definition⟩
      = Mock.withNull <$> askParts ask env membership ⟨schema, site, definition⟩ := by
  have hkeywords := Schema.keywords_withKeywords hinline more
  have hcomposed := composedMock_withKeywords h hinline site definition
  cases schema with
  | reference target => cases hinline
  | plain keywords => exact plainMock_withKeywords h hinline env site definition
  | array keywords items =>
    have h : Keywords.WithNull keywords more := h
    simp only [askParts, Schema.withKeywords, h.itemBounds_eq, map_bind, map_pure] at hcomposed ⊢
    simp only [hcomposed]
  | object keywords properties =>
    have h : Keywords.WithNull keywords more := h
    simp only [askParts, Schema.withKeywords, h.required_eq, map_bind, map_pure] at hcomposed ⊢
    simp only [hcomposed]
  | combined keywords combinator properties members =>
    have h : Keywords.WithNull keywords more := h
    have hrequired : Keywords.required (Schema.combined more combinator properties members).keywords
        = Keywords.required (Schema.combined keywords combinator properties members).keywords :=
      h.required_eq
    simp only [Schema.withKeywords] at hcomposed
    have hcombine :
        combineWith ask env membership
            ⟨.combined more combinator properties members, site, definition⟩ combinator members
          = fun mocks => Mock.withNull <$> combineWith ask env membership
            ⟨.combined keywords combinator properties members, site, definition⟩ combinator members
            mocks := by
      funext mocks
      cases combinator with
      | allOf => simp only [combineWith, hrequired, hcomposed, map_bind, map_pure]
      | oneOf | anyOf => simp only [combineWith, hrequired, hcomposed, map_bind, map_pure]
    simp only [askParts, askCombined, Schema.withKeywords, hcombine, map_bind]

/-- A rule and a constant count for both schemas alike. -/
theorem settledOr_withKeywords (env : Environment) (site : Site) (definition : Option String)
    {made made' : Resolve Mock} (hmade : PutsNull made made') :
    PutsNull (settledOr env ⟨schema, site, definition⟩ made)
      (settledOr env ⟨schema.withKeywords more, site, definition⟩ made') := by
  have hkeywords := Schema.keywords_withKeywords hinline more
  have hexample := h.get?_eq "example" (by decide) (by decide)
  have hconst := h.get?_eq "const" (by decide) (by decide)
  simp only [settledOr, ActiveRules.mock?_eq, hkeywords, hexample, hconst]
  cases env.rules.inOrder.first? site with
  | some rule =>
    simp only [Option.map_some, ruleMock_withKeywords h hinline]
    exact fun trace => ⟨rfl, rfl⟩
  | none =>
    simp only [Option.map_none]
    split
    · rw [constantMock_withKeywords h hinline]
      exact putsNull_pure _
    · exact hmade

theorem makeLayer_withKeywords (ask : Resolver) (env : Environment)
    (membership : Option Membership) (site : Site) (definition : Option String) :
    PutsNull (makeLayer ask env membership ⟨schema, site, definition⟩)
      (makeLayer ask env membership ⟨schema.withKeywords more, site, definition⟩) := by
  have hmade : PutsNull (askParts ask env membership ⟨schema, site, definition⟩)
      (askParts ask env membership ⟨schema.withKeywords more, site, definition⟩) := by
    rw [askParts_withKeywords h hinline]
    exact putsNull_map _
  have hsettled := settledOr_withKeywords h hinline env site definition hmade
  cases schema with
  | reference target => cases hinline
  | plain | array | object | combined => exact hsettled

theorem resolver_withKeywords (env : Environment) (membership : Option Membership) (site : Site)
    (definition : Option String) :
    PutsNull (resolver env membership ⟨schema, site, definition⟩)
      (resolver env membership ⟨schema.withKeywords more, site, definition⟩) := by
  have hinline' : (schema.withKeywords more).reference? = none :=
    (schema.reference?_withKeywords more).trans hinline
  have hresolver : resolver env membership ⟨schema, site, definition⟩
      = schema.typed <$> makeLayer resolver env membership ⟨schema, site, definition⟩ :=
    resolver_of_inline env membership hinline
  have hresolver' : resolver env membership ⟨schema.withKeywords more, site, definition⟩
      = (schema.withKeywords more).typed
        <$> makeLayer resolver env membership ⟨schema.withKeywords more, site, definition⟩ :=
    resolver_of_inline env membership hinline'
  rw [hresolver, hresolver']
  refine (makeLayer_withKeywords h hinline resolver env membership site definition).map ?_
  intro mock
  rw [Schema.typed_of_inline hinline, Schema.typed_of_inline hinline',
    type?_withKeywords h hinline]
  rfl

end Layers

/-- **Nullability is one choice, put around the whole.**  Let an inline schema not say that `null`
is a value, and let it be made to, in any of the ways there are.  Then it can be resolved where it
could be before, and fails alike where it could not; its mock is the one it had, with `null` beside
its expression and with the same imports, name, type and mark of a rule, and as much has been asked
for in all. -/
theorem nullability_is_one_choice (env : Environment) (membership : Option Membership) (site : Site)
    (definition : Option String) (trace : Trace) (keywords more : Keywords)
    (hinline : Keywords.reference? keywords = none) (hnullable : Keywords.nullable keywords = false)
    (hspelling : Keywords.SaysNull keywords more) :
    let plain := (PlacedSchema.resolve mockResolver env membership
      ⟨.ofJson (.obj keywords), site, definition⟩).outcome trace
    let nullable := (PlacedSchema.resolve mockResolver env membership
      ⟨.ofJson (.obj more), site, definition⟩).outcome trace
    nullable.1 = plain.1.map Mock.withNull ∧ nullable.2.imports = plain.2.imports := by
  have hwithNull := hspelling.withNull hnullable
  obtain ⟨hreference, hkeywords⟩ := Schema.keywords_ofJson hinline
  have hmore : (Schema.ofJson (.obj keywords)).keywords.WithNull more := by
    rw [hkeywords]
    exact hwithNull
  have hputs := resolver_withKeywords hmore hreference env membership site definition trace
  rw [← Schema.ofJson_withNull hwithNull] at hputs
  exact hputs

/-- A label with a caption, which is a title besides or has a size. -/
def captionKeywords : Keywords :=
  [("type", .str "object"),
    ("properties", .obj [("caption", referenceNode "#/components/schemas/Label")]),
    ("anyOf", .arr [.obj [("properties", .obj [("title", .obj [("enum", .arr [.str "Dr."])])])],
      .obj [("nullable", .bool true), ("properties", .obj [("size", .obj [])])]])]

theorem nullability_is_one_choice_caption :
    ∃ mock after after',
      (PlacedSchema.resolve mockResolver listEnvironment none
        ⟨.ofJson (.obj captionKeywords), ⟨"caption", none⟩, none⟩).outcome .empty
          = (.ok mock, after) ∧
      (PlacedSchema.resolve mockResolver listEnvironment none
        ⟨.ofJson (.obj (Entries.put "type" (.arr [.str "null", .str "object"]) captionKeywords)),
          ⟨"caption", none⟩, none⟩).outcome .empty = (.ok mock.withNull, after') ∧
      after'.imports = after.imports := by
  have hspelling : Keywords.SaysNull captionKeywords
      (Entries.put "type" (.arr [.str "null", .str InstanceType.object.name]) captionKeywords) :=
    .inFront rfl
  have hok : (PlacedSchema.resolve mockResolver listEnvironment none
      ⟨.ofJson (.obj captionKeywords), ⟨"caption", none⟩, none⟩).outcome .empty = (.ok _, _) := rfl
  obtain ⟨hresult, himports⟩ := nullability_is_one_choice listEnvironment none ⟨"caption", none⟩
    none .empty captionKeywords _ rfl rfl hspelling
  rw [hok] at hresult himports
  exact ⟨_, _, _, hok, Prod.ext hresult rfl, himports⟩

end SchemaMock
