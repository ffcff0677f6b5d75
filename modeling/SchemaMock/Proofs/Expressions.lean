/-
# Expressions inside expressions

A mock is one expression with others inside it, and most of what is asked of a mock is asked of
every expression inside it: `e.Everywhere P`.  Two more positions have names of their own.  The
values of the properties of an object are what a combination takes out of it and puts into another
object, and the alternatives of an expression are what stands at its place once every choice on the
way has been made.

Putting the mocks of parts together makes new objects, choices and arrays around old expressions.
What is asked of objects and texts only (`ObjectsAndTexts`) therefore holds everywhere in what is
put together as soon as it holds everywhere in the parts, and of the objects that are new.
-/
import SchemaMock.Resolution.Parts
import SchemaMock.Resolution.Plain

namespace SchemaMock

namespace Expression

/-! ## 1. Positions -/

/-- An expression stands somewhere in another one, or is it. -/
inductive Occurs : (inner outer : Expression) → Prop
  | here (e : Expression) : Occurs e e
  | choice {inner e : Expression} {choices : List Expression} (hmem : e ∈ choices)
      (h : Occurs inner e) : Occurs inner (.oneOf choices)
  | property {inner e : Expression} {key : String} {properties : List (String × Expression)}
      (hmem : (key, e) ∈ properties) (h : Occurs inner e) : Occurs inner (.object properties)
  | item {inner e : Expression} {min max : UInt64} (h : Occurs inner e) :
      Occurs inner (.array e min max)

/-- An expression is what another one comes to when every choice at its place has been made. -/
inductive Alternative : (inner outer : Expression) → Prop
  | here (e : Expression) : Alternative e e
  | choice {inner e : Expression} {choices : List Expression} (hmem : e ∈ choices)
      (h : Alternative inner e) : Alternative inner (.oneOf choices)

/-- What the properties of an expression are taken from: it is that object, or that object or
`null`. -/
theorem eq_of_properties? {e : Expression} {properties : List (String × Expression)}
    (h : e.properties? = some properties) :
    e = .object properties ∨ e = .oneOf [.object properties, .null] := by
  unfold properties? at h
  split at h
  · exact Or.inl (congrArg _ (Option.some.inj h))
  · cases h
    exact Or.inr rfl
  · cases h

section Alternatives

variable {properties : List (String × Expression)}

theorem alternative_object_iff {properties' : List (String × Expression)} :
    Alternative (.object properties) (.object properties') ↔ properties = properties' := by
  constructor
  · rintro ⟨⟩
    rfl
  · rintro rfl
    exact .here _

theorem alternative_oneOf_iff {choices : List Expression} :
    Alternative (.object properties) (.oneOf choices) ↔
      ∃ e ∈ choices, Alternative (.object properties) e := by
  constructor
  · intro h
    cases h with
    | choice hmem h => exact ⟨_, hmem, h⟩
  · rintro ⟨e, hmem, h⟩
    exact .choice hmem h

/-- `null` beside an expression is no object. -/
theorem alternative_orNull_iff {e : Expression} {nullable : Bool} :
    Alternative (.object properties) (e.orNull nullable) ↔ Alternative (.object properties) e := by
  rw [orNull]
  split
  · rw [alternative_oneOf_iff]
    constructor
    · rintro ⟨choice, hmem, h⟩
      simp only [List.mem_cons, List.not_mem_nil, or_false] at hmem
      rcases hmem with rfl | rfl
      · exact h
      · cases h
    · exact fun h => ⟨e, List.mem_cons_self, h⟩
  · exact Iff.rfl

/-- What is taken out of an expression is what it comes to, if it does not come to `null`. -/
theorem alternative_iff_of_properties? {e : Expression}
    {properties' : List (String × Expression)} (h : e.properties? = some properties') :
    Alternative (.object properties) e ↔ properties = properties' := by
  rcases eq_of_properties? h with rfl | rfl
  · exact alternative_object_iff
  · have hnull : Expression.oneOf [.object properties', .null]
        = (Expression.object properties').orNull true := rfl
    rw [hnull, alternative_orNull_iff]
    exact alternative_object_iff

end Alternatives

/-- Something holds of an expression and of all expressions inside it. -/
def Everywhere (P : Expression → Prop) (e : Expression) : Prop := ∀ inner, Occurs inner e → P inner

section Everywhere

variable {P : Expression → Prop}

theorem Everywhere.self {e : Expression} (h : Everywhere P e) : P e := h e (.here e)

theorem Everywhere.imp {Q : Expression → Prop} {e : Expression} (h : Everywhere P e)
    (himp : ∀ inner, P inner → Q inner) : Everywhere Q e :=
  fun inner hinner => himp inner (h inner hinner)

theorem everywhere_primitive {text : String} :
    Everywhere P (.primitive text) ↔ P (.primitive text) := by
  constructor
  · exact Everywhere.self
  · rintro h _ ⟨⟩
    exact h

theorem everywhere_null : Everywhere P .null ↔ P .null := by
  constructor
  · exact Everywhere.self
  · rintro h _ ⟨⟩
    exact h

theorem everywhere_undefined : Everywhere P .undefined ↔ P .undefined := by
  constructor
  · exact Everywhere.self
  · rintro h _ ⟨⟩
    exact h

theorem everywhere_oneOf {choices : List Expression} :
    Everywhere P (.oneOf choices) ↔ P (.oneOf choices) ∧ ∀ e ∈ choices, Everywhere P e := by
  constructor
  · exact fun h => ⟨h.self, fun e he inner hinner => h inner (.choice he hinner)⟩
  · rintro ⟨hself, hchoices⟩ inner hinner
    cases hinner with
    | here => exact hself
    | choice hmem h => exact hchoices _ hmem _ h

theorem everywhere_object {properties : List (String × Expression)} :
    Everywhere P (.object properties) ↔
      P (.object properties) ∧ ∀ e ∈ properties.map Prod.snd, Everywhere P e := by
  constructor
  · refine fun h => ⟨h.self, fun e he inner hinner => ?_⟩
    obtain ⟨⟨key, value⟩, hmem, rfl⟩ := List.mem_map.mp he
    exact h inner (.property hmem hinner)
  · rintro ⟨hself, hvalues⟩ inner hinner
    cases hinner with
    | here => exact hself
    | property hmem h => exact hvalues _ (List.mem_map.mpr ⟨_, hmem, rfl⟩) _ h

theorem everywhere_array {item : Expression} {min max : UInt64} :
    Everywhere P (.array item min max) ↔ P (.array item min max) ∧ Everywhere P item := by
  constructor
  · exact fun h => ⟨h.self, fun inner hinner => h inner (.item hinner)⟩
  · rintro ⟨hself, hitem⟩ inner hinner
    cases hinner with
    | here => exact hself
    | item h => exact hitem _ h

end Everywhere

end Expression

open Expression (Everywhere everywhere_null everywhere_undefined everywhere_oneOf everywhere_object)

/-! ## 2. What is put together -/

/-- What is asked of objects and of texts, and of no other expression. -/
structure ObjectsAndTexts (P : Expression → Prop) : Prop where
  null : P .null
  undefined : P .undefined
  oneOf : ∀ choices, P (.oneOf choices)
  array : ∀ item min max, P (.array item min max)

section Parts

variable {P : Expression → Prop}

theorem everywhere_of_properties? {e : Expression} {properties : List (String × Expression)}
    (h : Everywhere P e) (heq : e.properties? = some properties) :
    ∀ value ∈ properties.map Prod.snd, Everywhere P value := by
  rcases Expression.eq_of_properties? heq with rfl | rfl
  · exact (everywhere_object.mp h).2
  · exact (everywhere_object.mp ((everywhere_oneOf.mp h).2 _ List.mem_cons_self)).2

/-- A variant behind the properties beside the combinator is one new object, if it is an object. -/
theorem everywhere_behind {own : List (String × Expression)} {e : Expression}
    (hown : ∀ value ∈ own.map Prod.snd, Everywhere P value) (h : Everywhere P e)
    (hobject : ∀ properties, e = .object properties → P (.object (own ++ properties))) :
    Everywhere P (e.behind own) := by
  cases e with
  | object properties =>
    refine everywhere_object.mpr ⟨hobject properties rfl, fun value hvalue => ?_⟩
    rw [List.map_append] at hvalue
    rcases List.mem_append.mp hvalue with hvalue | hvalue
    · exact hown value hvalue
    · exact (everywhere_object.mp h).2 value hvalue
  | primitive | null | undefined | oneOf | array => exact h

variable (hP : ObjectsAndTexts P)

include hP

theorem everywhere_orNull {e : Expression} (h : Everywhere P e) (nullable : Bool) :
    Everywhere P (e.orNull nullable) := by
  rw [Expression.orNull]
  split
  · rw [everywhere_oneOf]
    simp [hP.oneOf, h, everywhere_null, hP.null]
  · exact h

theorem everywhere_orUndefined {e : Expression} (h : Everywhere P e) (isOptional : Bool) :
    Everywhere P (e.orUndefined isOptional) := by
  rw [Expression.orUndefined]
  split
  · rw [everywhere_oneOf]
    simp [hP.oneOf, h, everywhere_undefined, hP.undefined]
  · exact h

theorem everywhere_ownProperties {settings : Settings} {required : List String}
    {mocks : List (String × Mock)} (h : ∀ mock ∈ mocks.map Prod.snd, Everywhere P mock.expression) :
    ∀ e ∈ (ownProperties settings required mocks).map Prod.snd, Everywhere P e := by
  intro e he
  simp only [ownProperties, List.map_map, List.mem_map] at he
  obtain ⟨named, hnamed, rfl⟩ := he
  exact everywhere_orUndefined hP (h named.2 (List.mem_map_of_mem hnamed)) _

theorem everywhere_chosen {own : List (String × Expression)} {choices : List Expression}
    (hown : Everywhere P (.object own)) (h : ∀ e ∈ choices, Everywhere P e) :
    Everywhere P (.chosen own choices) := by
  match choices, h with
  | [], _ => exact hown
  | [e], h => exact h e List.mem_cons_self
  | first :: second :: rest, h => exact everywhere_oneOf.mpr ⟨hP.oneOf _, h⟩

end Parts

/-! ## 3. What is merged -/

namespace Merge

/-- What is kept by every property of a member, or else by the member as a whole, is kept by the
member. -/
theorem addMember_invariant {I : Merge → Prop} {merge : Merge} {mock : Mock}
    (hbegin : I { merge with imports := withImports merge.imports mock.imports })
    (hproperty : ∀ properties, mock.expression.properties? = some properties →
      ∀ property ∈ properties, ∀ m : Merge, I m → I (m.addProperty property))
    (hother : ∀ m : Merge, I m → I { m with other := some mock.expression }) :
    I (merge.addMember mock) := by
  rw [addMember]
  cases hproperties : mock.expression.properties? with
  | none => exact hother _ hbegin
  | some properties =>
    have hfold : ∀ (rest : List (String × Expression)) (m : Merge), rest ⊆ properties → I m →
        I (rest.foldl addProperty m) := by
      intro rest
      induction rest with
      | nil => exact fun m _ hm => hm
      | cons property rest ih =>
        intro m hsubset hm
        obtain ⟨hmem, hrest⟩ := List.cons_subset.mp hsubset
        exact ih _ hrest (hproperty properties hproperties property hmem m hm)
    exact hfold properties _ (List.Subset.refl _) hbegin

/-- The merged expression is a member that was merged, or one new object. -/
theorem expression_cases (merge : Merge) :
    merge.other = some merge.expression ∨ merge.expression = .object merge.properties := by
  rw [expression]
  split
  · next hother _ => exact Or.inl hother
  · exact Or.inr rfl

end Merge

/-! ## 4. Schemas without parts -/

namespace PlainSchema

/-- The texts that can be made for a schema without parts that is no enumeration. -/
inductive IsText (settings : Settings) : String → Prop
  | configured {format text : String} (h : settings.formats.get? format = some text) :
      IsText settings text
  | known {format text : String} (h : knownFormat? format = some text) : IsText settings text
  | integer (bounds : Option String) : IsText settings (call "faker.number.int" bounds)
  | number (bounds : Option String) : IsText settings (call "faker.number.float" bounds)
  | boolean : IsText settings "faker.datatype.boolean()"
  | pattern (pattern : String) :
      IsText settings ("faker.helpers.fromRegExp(" ++ Json.quote pattern ++ ")")
  | length (range : String) :
      IsText settings ("faker.string.alpha(\x7b length: " ++ range ++ " \x7d)")
  | word : IsText settings "faker.word.sample()"

theorem isText_text (settings : Settings) (keywords : Keywords) :
    IsText settings (text keywords) := by
  rw [text]
  split
  · exact .pattern _
  · split
    · exact .length _
    · exact .word

theorem ofType_cases (settings : Settings) (keywords : Keywords) (type : Option InstanceType) :
    ofType keywords type = .null ∨
      ∃ text, ofType keywords type = .primitive text ∧ IsText settings text := by
  unfold ofType
  split
  · exact Or.inr ⟨_, rfl, .integer _⟩
  · exact Or.inr ⟨_, rfl, .number _⟩
  · exact Or.inr ⟨_, rfl, .boolean⟩
  · exact Or.inl rfl
  · exact Or.inr ⟨_, rfl, isText_text settings keywords⟩

/-- The expression of a schema without parts is one text, or `null`. -/
theorem expression_cases (settings : Settings) (keywords : Keywords) :
    expression settings keywords = .null ∨
      ∃ text, expression settings keywords = .primitive text ∧ IsText settings text := by
  rw [expression]
  cases hconfigured : (Keywords.format? keywords).bind fun f =>
      (settings.formats.get? f).map Expression.primitive with
  | some e =>
    obtain ⟨format, -, he⟩ := Option.bind_eq_some_iff.mp hconfigured
    obtain ⟨text, htext, rfl⟩ := Option.map_eq_some_iff.mp he
    exact Or.inr ⟨text, rfl, .configured htext⟩
  | none =>
    cases hknown : (Keywords.format? keywords).bind (ofFormat? (Keywords.type? keywords)) with
    | some e =>
      obtain ⟨format, -, he⟩ := Option.bind_eq_some_iff.mp hknown
      rw [ofFormat?] at he
      split at he
      · obtain ⟨text, htext, rfl⟩ := Option.map_eq_some_iff.mp he
        exact Or.inr ⟨text, rfl, .known htext⟩
      · cases he
    | none => exact ofType_cases settings keywords _

end PlainSchema

end SchemaMock
