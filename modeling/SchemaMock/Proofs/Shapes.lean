/-
# The shape of a mock

An expression is read by whoever evaluates it, and not every expression that can be written down is
one that should be met.  Three things are wanted of a mock:

* `undefined` stands for a property that is missing, so it stands nowhere but as the second of two
  alternatives of a choice, and that choice is the value of a property of an object;
* a choice has something to choose, so it has at least two alternatives;
* an array can have the number of items that it asks for, so its bounds are not inverted.

`WellShaped` is the grammar that says so, with no rule for `undefined`, and `PropertyShaped` its
other half for the values of properties, with the one rule that has it.  Two halves are needed
because properties are moved: what is merged or put behind other properties has been wrapped
already, and must not be wrapped again.
-/
import SchemaMock.Proofs.Answers
import SchemaMock.Proofs.Expressions

namespace SchemaMock

namespace Expression

/-! ## 1. The grammar -/

mutual

/-- An expression that comes to a value, whatever is chosen in it. -/
inductive WellShaped : Expression → Prop
  | primitive (text : String) : WellShaped (.primitive text)
  | null : WellShaped .null
  | oneOf {choices : List Expression} (hlength : 2 ≤ choices.length)
      (hchoices : ∀ e ∈ choices, WellShaped e) : WellShaped (.oneOf choices)
  | object {properties : List (String × Expression)}
      (hvalues : ∀ e ∈ properties.map Prod.snd, PropertyShaped e) : WellShaped (.object properties)
  | array {item : Expression} {min max : UInt64} (hbounds : min ≤ max) (hitem : WellShaped item) :
      WellShaped (.array item min max)

/-- The value of a property, which may be missing. -/
inductive PropertyShaped : Expression → Prop
  | present {e : Expression} (h : WellShaped e) : PropertyShaped e
  | optional {e : Expression} (h : WellShaped e) : PropertyShaped (.oneOf [e, .undefined])

end

theorem wellShaped_object_iff {properties : List (String × Expression)} :
    WellShaped (.object properties) ↔ ∀ e ∈ properties.map Prod.snd, PropertyShaped e := by
  constructor
  · intro h
    cases h with
    | object hvalues => exact hvalues
  · exact .object

/-- What stands inside a well-shaped expression is well-shaped, or is the value of a property, or
stands for one that is missing. -/
theorem WellShaped.of_occurs {inner outer : Expression} (hoccurs : Occurs inner outer) :
    PropertyShaped outer → PropertyShaped inner ∨ inner = .undefined := by
  induction hoccurs with
  | here => exact Or.inl
  | choice hmem hoccurs ih =>
    intro h
    cases h with
    | present h =>
      cases h with
      | oneOf _ hchoices => exact ih (.present (hchoices _ hmem))
    | optional h =>
      -- of the two alternatives the first is well-shaped, and nothing but itself is in the second
      rcases List.mem_cons.mp hmem with rfl | hmem
      · exact ih (.present h)
      · rw [List.mem_singleton.mp hmem] at hoccurs
        cases hoccurs with
        | here => exact Or.inr rfl
  | property hmem _ ih =>
    intro h
    cases h with
    | present h => exact ih (wellShaped_object_iff.mp h _ (List.mem_map_of_mem hmem))
  | item _ ih =>
    intro h
    cases h with
    | present h =>
      cases h with
      | array _ hitem => exact ih (.present hitem)

/-- A choice inside a well-shaped expression has something to choose. -/
theorem WellShaped.two_le_length {e : Expression} (h : WellShaped e) {choices : List Expression}
    (hoccurs : Occurs (.oneOf choices) e) : 2 ≤ choices.length := by
  rcases WellShaped.of_occurs hoccurs (.present h) with h | h
  · cases h with
    | present h =>
      cases h with
      | oneOf hlength _ => exact hlength
    | optional _ => exact Nat.le_refl 2
  · cases h

/-- The bounds of an array inside a well-shaped expression are not inverted. -/
theorem WellShaped.min_le_max {e : Expression} (h : WellShaped e) {item : Expression}
    {min max : UInt64} (hoccurs : Occurs (.array item min max) e) : min ≤ max := by
  rcases WellShaped.of_occurs hoccurs (.present h) with h | h
  · cases h with
    | present h =>
      cases h with
      | array hbounds _ => exact hbounds
  · cases h

/-! ## 2. What is put together -/

theorem WellShaped.orNull {e : Expression} (h : WellShaped e) (nullable : Bool) :
    WellShaped (e.orNull nullable) := by
  rw [Expression.orNull]
  split
  · refine .oneOf (Nat.le_refl 2) fun choice hchoice => ?_
    rcases List.mem_cons.mp hchoice with rfl | hchoice
    · exact h
    · rw [List.mem_singleton.mp hchoice]
      exact .null
  · exact h

/-- This is the one place where `undefined` comes in. -/
theorem WellShaped.orUndefined {e : Expression} (h : WellShaped e) (isOptional : Bool) :
    PropertyShaped (e.orUndefined isOptional) := by
  rw [Expression.orUndefined]
  split
  · exact .optional h
  · exact .present h

theorem WellShaped.values_of_properties? {e : Expression} (h : WellShaped e)
    {properties : List (String × Expression)} (hproperties : e.properties? = some properties) :
    ∀ value ∈ properties.map Prod.snd, PropertyShaped value := by
  rcases eq_of_properties? hproperties with rfl | rfl
  · exact wellShaped_object_iff.mp h
  · cases h with
    | oneOf _ hchoices => exact wellShaped_object_iff.mp (hchoices _ List.mem_cons_self)

theorem WellShaped.behind {own : List (String × Expression)} {e : Expression} (h : WellShaped e)
    (hown : WellShaped (.object own)) : WellShaped (e.behind own) := by
  cases e with
  | object properties =>
    refine .object fun value hvalue => ?_
    rw [List.map_append] at hvalue
    rcases List.mem_append.mp hvalue with hvalue | hvalue
    · exact wellShaped_object_iff.mp hown value hvalue
    · exact wellShaped_object_iff.mp h value hvalue
  | primitive | null | undefined | oneOf | array => exact h

theorem wellShaped_chosen {own : List (String × Expression)} {choices : List Expression}
    (hown : WellShaped (.object own)) (h : ∀ e ∈ choices, WellShaped e) :
    WellShaped (.chosen own choices) := by
  match choices, h with
  | [], _ => exact hown
  | [e], h => exact h e List.mem_cons_self
  | first :: second :: rest, h =>
    have hlength : 2 ≤ (first :: second :: rest).length := by
      simp only [List.length_cons]
      omega
    exact .oneOf hlength h

end Expression

open Expression (WellShaped PropertyShaped wellShaped_object_iff wellShaped_chosen)

/-- The bounds of an array are not inverted, whatever the keywords and the settings tell. -/
theorem itemBounds_ordered (settings : Settings) (keywords : Keywords) :
    (itemBounds settings keywords).1 ≤ (itemBounds settings keywords).2 := by
  simp only [itemBounds]
  split
  · exact UInt64.le_refl _
  · next h => exact UInt64.not_lt.mp h

theorem wellShaped_plainSchema (settings : Settings) (keywords : Keywords) :
    WellShaped (PlainSchema.expression settings keywords) := by
  rcases PlainSchema.expression_cases settings keywords with h | ⟨text, h, -⟩
  · rw [h]
    exact .null
  · rw [h]
    exact .primitive text

/-- The properties of a schema make a well-shaped object. -/
theorem wellShaped_own {settings : Settings} {required : List String}
    {mocks : List (String × Mock)} {own : List (String × Expression)}
    (hown : own = ownProperties settings required mocks)
    (h : ∀ mock ∈ mocks.map Prod.snd, WellShaped mock.expression) : WellShaped (.object own) := by
  subst hown
  refine .object fun value hvalue => ?_
  simp only [ownProperties, List.map_map, List.mem_map] at hvalue
  obtain ⟨named, hnamed, rfl⟩ := hvalue
  exact (h named.2 (List.mem_map_of_mem hnamed)).orUndefined _

/-- Members are merged so that what comes of them is well-shaped. -/
structure Merge.WellShaped (merge : Merge) : Prop where
  properties : ∀ value ∈ merge.properties.map Prod.snd, PropertyShaped value
  other : ∀ e, merge.other = some e → Expression.WellShaped e

theorem Merge.WellShaped.addMember {merge : Merge} (h : merge.WellShaped) {mock : Mock}
    (hmock : mock.expression.WellShaped) : (merge.addMember mock).WellShaped := by
  refine Merge.addMember_invariant ⟨h.properties, h.other⟩ ?_ ?_
  · intro properties hproperties property hmem m hm
    rw [Merge.addProperty]
    split
    · exact hm
    · refine ⟨fun value hvalue => ?_, hm.other⟩
      rw [List.map_append] at hvalue
      rcases List.mem_append.mp hvalue with hvalue | hvalue
      · exact hm.properties value hvalue
      · -- the property has been wrapped in the member that it comes from
        rw [List.mem_singleton.mp hvalue]
        exact hmock.values_of_properties? hproperties _ (List.mem_map_of_mem hmem)
  · intro m hm
    refine ⟨hm.properties, fun e he => ?_⟩
    rw [← Option.some.inj he]
    exact hmock

theorem Merge.WellShaped.expression {merge : Merge} (h : merge.WellShaped) :
    merge.expression.WellShaped := by
  rcases merge.expression_cases with hother | hproperties
  · exact h.other _ hother
  · rw [hproperties]
    exact .object h.properties

/-! ## 3. The resolution -/

section Layers

variable {ask : Resolver} (hask : ∀ env membership placed mock,
  (ask env membership placed).Gives mock → mock.expression.WellShaped)
  {env : Environment}

include hask

theorem wellShaped_answers {emitted : List String} {site : Site}
    {properties : List (String × Schema)} {mocks : List (String × Mock)}
    (hmocks : AnswersProperties ask env emitted site properties mocks) :
    ∀ mock ∈ mocks.map Prod.snd, mock.expression.WellShaped := by
  intro mock hmock
  obtain ⟨part, -, site', hgives⟩ := hmocks.gives mock hmock
  exact hask _ _ _ _ hgives

/-- One case for each thing that can be made of a schema that nothing settles. -/
theorem wellShaped_of_makesOfParts {membership : Option Membership} {placed : PlacedSchema}
    {mock : Mock} (h : MakesOfParts ask env membership placed mock) :
    mock.expression.WellShaped := by
  cases h with
  | named | listed => exact (WellShaped.primitive _).orNull _
  | plain => exact (wellShaped_plainSchema _ _).orNull _
  | array hitem =>
    exact (WellShaped.array (itemBounds_ordered _ _) (hask _ _ _ _ hitem)).orNull _
  | object hmocks => exact (wellShaped_own rfl (wellShaped_answers hask hmocks)).orNull _
  | merged hmocks hown hmerge =>
    have hobject := wellShaped_own hown (wellShaped_answers hask hmocks)
    have hmerged : Merge.WellShaped _ :=
      hmerge.invariant ⟨wellShaped_object_iff.mp hobject, nofun⟩ fun member _ merge mock h hgives =>
        h.addMember (hask _ _ _ _ hgives)
    exact hmerged.expression.orNull _
  | chosen _ hmocks hown hvariants =>
    have hobject := wellShaped_own hown (wellShaped_answers hask hmocks)
    refine (wellShaped_chosen hobject fun e he => ?_).orNull _
    obtain ⟨variant, hvariant, rfl⟩ := List.mem_map.mp he
    obtain ⟨member, -, hgives⟩ := hvariants.gives variant hvariant
    exact (hask _ _ _ _ hgives).behind hobject

theorem wellShaped_of_makes {membership : Option Membership} {placed : PlacedSchema}
    {mock : Mock} (h : Makes ask env membership placed mock) : mock.expression.WellShaped := by
  cases h with
  | asked h => exact hask _ _ _ _ h
  | overridden | constant => exact (WellShaped.primitive _).orNull _
  | made _ _ _ h => exact wellShaped_of_makesOfParts hask h

end Layers

/-- Whatever a resolution can give is well-shaped. -/
theorem resolver_wellShaped {env : Environment} {membership : Option Membership}
    {placed : PlacedSchema} {mock : Mock} (h : (resolver env membership placed).Gives mock) :
    mock.expression.WellShaped := by
  refine resolver_induction (P := fun _ _ _ mock => mock.expression.WellShaped) ?_ ?_ ?_ h
  · intro env membership placed mock h
    rw [Schema.expression_typed]
    exact h
  · exact fun h => h
  · exact fun hask => wellShaped_of_makes hask

/-- **Every mock is well-shaped.**  Whatever is resolved, in whatever documents and with whatever
settings, also with inverted bounds: `undefined` stands only beside the value of a property, every
choice has at least two alternatives, and every array at least as many items at most as it has at
least, in numbers of 64 bits. -/
theorem every_mock_is_well_shaped (env : Environment) (membership : Option Membership)
    (placed : PlacedSchema) (trace after : Trace) (mock : Mock)
    (hok : (placed.resolve mockResolver env membership).outcome trace = (.ok mock, after)) :
    mock.expression.WellShaped ∧
    (∀ choices, Expression.Occurs (.oneOf choices) mock.expression → 2 ≤ choices.length) ∧
    ∀ item min max, Expression.Occurs (.array item min max) mock.expression →
      min.toNat ≤ max.toNat ∧ max.toNat < wordLimit := by
  have hgives : (resolver env membership placed).Gives mock := ⟨trace, after, hok⟩
  have hshaped := resolver_wellShaped hgives
  refine ⟨hshaped, fun choices hoccurs => hshaped.two_le_length hoccurs, ?_⟩
  intro item min max hoccurs
  exact ⟨UInt64.le_iff_toNat_le.mp (hshaped.min_le_max hoccurs), UInt64.toNat_lt max⟩

/-- Nothing but the list document at hand, and bounds that are inverted. -/
def invertedEnvironment : Environment :=
  { listEnvironment with
    settings := { listEnvironment.settings with arrayMin := 7, arrayMax := 2 } }

/-- A shelf of labels, merged from a part that may be missing and one that may be `null`. -/
def shelf : PlacedSchema :=
  .ofJson (.obj [("allOf", .arr [
    .obj [("nullable", .bool true), ("properties", .obj [
      ("labels", .obj [("type", .str "array"),
        ("items", referenceNode "#/components/schemas/Label")])])],
    .obj [("properties", .obj [
      ("room", .obj [("oneOf", .arr [.obj [("type", .str "integer")], .obj [("const", .null)]])]),
      ("marks", .obj [("type", .arr [.str "array", .str "null"]), ("minItems", .ofNat 4),
        ("maxItems", .ofNat 1)])])]])]) ⟨"shelf", none⟩

theorem every_mock_is_well_shaped_shelf :
    ∃ mock after,
      (shelf.resolve mockResolver invertedEnvironment none).outcome .empty = (.ok mock, after) ∧
      mock.expression.WellShaped ∧
      (∀ choices, Expression.Occurs (.oneOf choices) mock.expression → 2 ≤ choices.length) ∧
      ∀ item min max, Expression.Occurs (.array item min max) mock.expression →
        min.toNat ≤ max.toNat ∧ max.toNat < wordLimit := by
  have hok : (shelf.resolve mockResolver invertedEnvironment none).outcome .empty
      = (.ok _, _) := rfl
  exact ⟨_, _, hok, every_mock_is_well_shaped invertedEnvironment none shelf .empty _ _ hok⟩

end SchemaMock
