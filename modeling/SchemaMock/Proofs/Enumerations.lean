/-
# Enumerations by name

An enumeration that a reference led to is not written out.  Its mock is a text that uses it by the
name of its definition, and an import says which document the name is from.  The name comes from the
reference and the document from the environment inside its target; both have been told by the last
reference on the way, so they belong together (`LedTo`).

Where no rule and no format of the settings puts in a text of its own, a text that uses an
enumeration by name cannot come from anywhere else: every other text begins differently (§1).  So
whatever such text stands in a mock has its import (`NamesImported`), and every import is that of an
enumeration that stands in a document (`Import.Backed`).
-/
import SchemaMock.Proofs.Answers
import SchemaMock.Proofs.Expressions
import SchemaMock.Proofs.Imports

namespace SchemaMock

open Expression (Everywhere everywhere_object everywhere_array everywhere_primitive everywhere_null)

/-! ## 1. Texts -/

/-- How a text begins that uses an enumeration by name. -/
def namedBeginning : String := "faker.helpers.arrayElement(" ++ "Object.values("

theorem namedEnumeration_eq (name : String) :
    namedEnumeration name = namedBeginning ++ (name ++ (")" ++ ")")) := by
  unfold namedEnumeration Expression.pick namedBeginning
  simp only [String.append_assoc, -String.reduceAppend]

/-- Different names are used in different texts. -/
theorem namedEnumeration_injective {a b : String} (h : namedEnumeration a = namedEnumeration b) :
    a = b := by
  rw [namedEnumeration_eq, namedEnumeration_eq, String.append_right_inj,
    String.append_left_inj] at h
  exact h

/-- A text that uses no enumeration by name, to be seen from its beginning. -/
def BeginsOtherwise (text : String) : Prop := ¬ namedBeginning.toList <+: text.toList

instance (text : String) : Decidable (BeginsOtherwise text) :=
  inferInstanceAs (Decidable (¬ namedBeginning.toList <+: text.toList))

theorem BeginsOtherwise.ne {text : String} (h : BeginsOtherwise text) (name : String) :
    text ≠ namedEnumeration name := by
  rintro rfl
  rw [BeginsOtherwise, namedEnumeration_eq, String.toList_append] at h
  exact h (List.prefix_append _ _)

/-- A beginning that is not shared settles the rest. -/
theorem beginsOtherwise_append {front : String} (back : String)
    (h : ¬ front.toList <+: namedBeginning.toList) (h' : BeginsOtherwise front) :
    BeginsOtherwise (front ++ back) := by
  intro hprefix
  have hfront : front.toList <+: (front ++ back).toList := by
    rw [String.toList_append]
    exact List.prefix_append _ _
  rcases List.prefix_or_prefix_of_prefix hfront hprefix with hle | hle
  · exact h hle
  · exact h' hle

theorem head?_namedBeginning : namedBeginning.toList.head? = some 'f' := by decide

theorem beginsOtherwise_of_head {text : String} (h : text.toList.head? ≠ some 'f') :
    BeginsOtherwise text := by
  rintro ⟨rest, heq⟩
  rw [← heq, List.head?_append, head?_namedBeginning] at h
  exact h rfl

/-! ### Numbers -/

theorem repr_eq_digit_cons (n : Nat) :
    ∃ digit rest, (Nat.repr n).toList = digit :: rest ∧ digit.isDigit = true := by
  have hne : (Nat.repr n).toList ≠ [] := by
    rw [Nat.toList_repr]
    exact Nat.toDigits_ne_nil
  obtain ⟨digit, rest, h⟩ := List.exists_cons_of_ne_nil hne
  refine ⟨digit, rest, h, ?_⟩
  have hmem : digit ∈ Nat.toDigits 10 n := by
    rw [← Nat.toList_repr, h]
    exact List.mem_cons_self
  exact Nat.isDigit_of_mem_toDigits (by decide) (by decide) hmem

/-- The text of a decimal begins with a digit, in each of its forms. -/
theorem head?_point (layout : Decimal.Layout) (d : Decimal.Point) :
    ∃ digit, (d.render layout).toList.head? = some digit ∧ digit.isDigit = true := by
  obtain ⟨digit, rest, hrepr, hdigit⟩ := repr_eq_digit_cons d.digits
  simp only [Decimal.Point.render, hrepr]
  split
  · exact ⟨digit, by simp, hdigit⟩
  · split
    · next h =>
      have hpoint : (((digit :: rest).length : Int) + d.exponent).toNat ≠ 0 := by omega
      obtain ⟨k, hk⟩ := Nat.exists_eq_succ_of_ne_zero hpoint
      rw [hk]
      exact ⟨digit, by simp, hdigit⟩
    · split
      · exact ⟨'0', by simp, rfl⟩
      · exact ⟨digit, by simp, hdigit⟩

theorem ne_f_of_isDigit {digit : Char} (h : digit.isDigit = true) : some digit ≠ some 'f' := by
  rintro ⟨⟩
  cases h

theorem head?_number (n : Number) : n.render.toList.head? ≠ some 'f' := by
  cases n with
  | int n =>
    rw [Number.render, Int.toString_eq_repr]
    cases n with
    | ofNat n =>
      obtain ⟨digit, rest, hrepr, hdigit⟩ := repr_eq_digit_cons n
      rw [Int.repr, hrepr]
      exact ne_f_of_isDigit hdigit
    | negSucc n => simp [Int.repr]
  | float x =>
    have hsigned : ∀ (negative : Prop) [Decidable negative] (text : String),
        text.toList.head? ≠ some 'f' →
        ((if negative then "-" else "") ++ text).toList.head? ≠ some 'f' := by
      intro negative _ text h
      split
      · simp
      · simpa using h
    simp only [Number.render, Number.renderFloat]
    split
    · exact hsigned _ _ (by decide)
    · next d _ =>
      obtain ⟨digit, hhead, hdigit⟩ := head?_point Number.layout d
      exact hsigned _ _ (hhead ▸ ne_f_of_isDigit hdigit)

/-! ### Values and schemas without parts -/

/-- The text of a value of a document is a number, a word of its own, or in quotes or brackets. -/
theorem beginsOtherwise_compact (value : Json) : BeginsOtherwise value.compact := by
  rw [Json.compact.eq_def]
  cases value with
  | null => exact beginsOtherwise_of_head (by decide)
  | bool b =>
    cases b with
    | true => exact beginsOtherwise_of_head (by decide)
    | false => decide
  | num n => exact beginsOtherwise_of_head (head?_number n)
  | str s => exact beginsOtherwise_of_head (by simp [Json.quote])
  | arr items => exact beginsOtherwise_of_head (by simp)
  | obj members => exact beginsOtherwise_of_head (by simp)

theorem beginsOtherwise_listed (values : List Json) :
    BeginsOtherwise (listedEnumeration values) := by
  have heq : ∀ inner : String,
      "faker.helpers.arrayElement(" ++ ("[" ++ inner ++ "] as const") ++ ")"
        = ("faker.helpers.arrayElement(" ++ "[") ++ (inner ++ ("] as const" ++ ")")) := by
    intro inner
    simp only [String.append_assoc, -String.reduceAppend]
  unfold listedEnumeration Expression.pick
  rw [heq]
  exact beginsOtherwise_append _ (by decide) (by decide)

/-- What holds of every text of a table holds of whichever is looked up. -/
theorem of_lookup {P : String → Prop} {table : List (String × String)} {key text : String}
    (hall : ∀ entry ∈ table, P entry.2) (h : table.lookup key = some text) : P text := by
  obtain ⟨before, after, rfl, -⟩ := List.lookup_eq_some_iff.mp h
  exact hall (key, text) (List.mem_append_right _ List.mem_cons_self)

/-- Where the settings give no texts for formats, no schema without parts begins like that. -/
theorem beginsOtherwise_plain {settings : Settings} (hformats : settings.formats.entries = [])
    {text : String} (h : PlainSchema.IsText settings text) : BeginsOtherwise text := by
  cases h with
  | configured h =>
    rw [OrderedMap.get?, hformats] at h
    cases h
  | known h =>
    rw [PlainSchema.knownFormat?] at h
    exact of_lookup (P := BeginsOtherwise) (by decide) h
  | integer bounds | number bounds =>
    unfold PlainSchema.call
    rw [String.append_assoc]
    exact beginsOtherwise_append _ (by decide) (by decide)
  | boolean | word => decide
  | pattern pattern | length range =>
    rw [String.append_assoc]
    exact beginsOtherwise_append _ (by decide) (by decide)

/-! ## 2. Imports of names -/

/-- A text that uses an enumeration by its name has the import of that name. -/
def NamesImported (imports : List Import) (e : Expression) : Prop :=
  ∀ name, e = .primitive (namedEnumeration name) → ∃ i ∈ imports, i.name = name ∧ i.asValue = true

theorem objectsAndTexts_namesImported (imports : List Import) :
    ObjectsAndTexts (NamesImported imports) where
  null := nofun
  undefined := nofun
  oneOf := nofun
  array := nofun

theorem NamesImported.mono {imports more : List Import} {e : Expression}
    (h : NamesImported imports e) (hsubset : imports ⊆ more) : NamesImported more e := by
  intro name heq
  obtain ⟨i, hi, hname⟩ := h name heq
  exact ⟨i, hsubset hi, hname⟩

theorem everywhere_namesImported_mono {imports more : List Import} {e : Expression}
    (h : Everywhere (NamesImported imports) e) (hsubset : imports ⊆ more) :
    Everywhere (NamesImported more) e :=
  h.imp fun _ hinner => hinner.mono hsubset

/-- A text that uses no enumeration by its name needs no import. -/
theorem everywhere_namesImported_of_begins {imports : List Import} {text : String}
    (h : BeginsOtherwise text) : Everywhere (NamesImported imports) (.primitive text) := by
  refine everywhere_primitive.mpr fun name heq => ?_
  exact absurd (Expression.primitive.inj heq) (h.ne name)

/-- An import is backed by the documents: some reference has its name and leads into its document,
and what stands there is an object with an enumeration. -/
def Import.Backed (store : DocumentStore) (i : Import) : Prop :=
  ∃ reference current keywords values,
    i.name = (Reference.read reference current).name ∧
    i.document = some (Target.told reference current).documentKey ∧
    store.at? (Target.told reference current).documentKey (Target.told reference current).segments
      = some (.obj keywords) ∧
    Keywords.enumeration? keywords = some values

/-- All that is imported is backed, and all that is used by its name is imported. -/
structure Mock.ImportsEnumerations (store : DocumentStore) (mock : Mock) : Prop where
  used : Everywhere (NamesImported mock.imports) mock.expression
  backed : ∀ i ∈ mock.imports, i.Backed store

/-- A schema with the name of a definition is what the last reference led to, in the environment
inside its target. -/
def LedTo (env : Environment) (placed : PlacedSchema) : Prop :=
  ∀ name, placed.definition = some name → ∃ reference current,
    placed.schema = env.store.schemaAt (.told reference current) ∧
    env.documentKey = (Target.told reference current).documentKey ∧
    name = (Reference.read reference current).name

theorem ledTo_followed (env : Environment) (reference : String) (site : Site) :
    LedTo (env.inside reference) (env.followed reference site) := by
  intro name hname
  exact ⟨reference, env.documentKey, rfl, rfl, (Option.some.inj hname).symm⟩

theorem ledTo_none (env : Environment) (schema : Schema) (site : Site) :
    LedTo env ⟨schema, site, none⟩ := nofun

/-- What holds a plain schema is the object of its keywords. -/
theorem eq_obj_of_ofJson_eq_plain {node : Json} {keywords : Keywords}
    (h : Schema.ofJson node = .plain keywords) : node = .obj keywords := by
  cases node with
  | obj members =>
    unfold Schema.ofJson at h
    split at h
    · cases h
    · split at h <;> cases h
      rfl
  | null | bool | num | str | arr => simp [Schema.ofJson] at h

/-- The import of an enumeration that a reference led to is backed. -/
theorem backed_of_ledTo {env : Environment} {keywords : Keywords} {site : Site} {name : String}
    {values : List Json} (h : LedTo env ⟨.plain keywords, site, some name⟩)
    (hvalues : Keywords.enumeration? keywords = some values) :
    Import.Backed env.store ⟨name, some env.documentKey, true⟩ := by
  obtain ⟨reference, current, hschema, hdocument, hname⟩ := h name rfl
  refine ⟨reference, current, keywords, values, hname, congrArg some hdocument, ?_, hvalues⟩
  cases hat : env.store.at? (Target.told reference current).documentKey
      (Target.told reference current).segments with
  | none =>
    rw [DocumentStore.schemaAt_of_none hat] at hschema
    cases hschema
  | some node =>
    rw [DocumentStore.schemaAt_of_some hat] at hschema
    rw [eq_obj_of_ofJson_eq_plain hschema.symm]

/-! ## 3. What is put together -/

section Merge

variable {imports : List Import}

/-- All that is used by its name in what has been merged is imported. -/
structure Merge.NamesImported (imports : List Import) (merge : Merge) : Prop where
  properties : ∀ e ∈ merge.properties.map Prod.snd, Everywhere (SchemaMock.NamesImported imports) e
  other : ∀ e, merge.other = some e → Everywhere (SchemaMock.NamesImported imports) e

theorem Merge.NamesImported.mono {more : List Import} {merge : Merge}
    (h : merge.NamesImported imports) (hsubset : imports ⊆ more) : merge.NamesImported more where
  properties e he := everywhere_namesImported_mono (h.properties e he) hsubset
  other e he := everywhere_namesImported_mono (h.other e he) hsubset

theorem Merge.NamesImported.addProperty {merge : Merge} (h : merge.NamesImported imports)
    {property : String × Expression}
    (hvalue : Everywhere (SchemaMock.NamesImported imports) property.2) :
    (merge.addProperty property).NamesImported imports := by
  rw [Merge.addProperty]
  split
  · exact h
  · refine ⟨fun e he => ?_, h.other⟩
    simp only [List.map_append, List.mem_append, List.map_cons, List.map_nil,
      List.mem_singleton] at he
    rcases he with he | rfl
    · exact h.properties e he
    · exact hvalue

theorem Merge.NamesImported.addMember {merge : Merge} (h : merge.NamesImported imports)
    {mock : Mock} (hmock : Everywhere (SchemaMock.NamesImported imports) mock.expression) :
    (merge.addMember mock).NamesImported imports := by
  refine Merge.addMember_invariant ⟨h.properties, h.other⟩ ?_ ?_
  · intro properties hproperties property hmem m hm
    exact hm.addProperty (everywhere_of_properties? hmock hproperties _ (List.mem_map_of_mem hmem))
  · intro m hm
    refine ⟨hm.properties, fun e he => ?_⟩
    rw [← Option.some.inj he]
    exact hmock

theorem Merge.NamesImported.expression {merge : Merge} (h : merge.NamesImported imports) :
    Everywhere (SchemaMock.NamesImported imports) merge.expression := by
  rcases merge.expression_cases with hother | hproperties
  · exact h.other _ hother
  · rw [hproperties]
    exact everywhere_object.mpr ⟨nofun, h.properties⟩

end Merge

/-- What is put together of an expression and imports, both with what is needed. -/
theorem importsEnumerations_composed {store : DocumentStore} {placed : PlacedSchema}
    {e : Expression} {imports : List Import} (hused : Everywhere (NamesImported imports) e)
    (hbacked : ∀ i ∈ imports, i.Backed store) :
    (composedMock placed e imports).ImportsEnumerations store :=
  ⟨everywhere_orNull (objectsAndTexts_namesImported imports) hused _, hbacked⟩

/-- The mocks of parts, with all their imports behind others that are backed. -/
theorem importsEnumerations_behind {store : DocumentStore} {base : List Import} {mocks : List Mock}
    (hbase : ∀ i ∈ base, i.Backed store)
    (hmocks : ∀ mock ∈ mocks, mock.ImportsEnumerations store) :
    (∀ mock ∈ mocks, Everywhere (NamesImported (importsBehind base mocks)) mock.expression) ∧
      ∀ i ∈ importsBehind base mocks, i.Backed store := by
  constructor
  · intro mock hmock
    refine everywhere_namesImported_mono (hmocks mock hmock).used fun i hi => ?_
    exact mem_importsBehind.mpr (Or.inr ⟨mock, hmock, hi⟩)
  · intro i hi
    rcases mem_importsBehind.mp hi with hi | ⟨mock, hmock, hi⟩
    · exact hbase i hi
    · exact (hmocks mock hmock).backed i hi

/-! ## 4. The resolution -/

/-- Without rules and formats, what is made of a schema imports the enumerations that it uses. -/
def ImportsWhatItUses (env : Environment) (_ : Option Membership) (placed : PlacedSchema)
    (mock : Mock) : Prop :=
  env.rules.inOrder = [] → env.settings.formats.entries = [] → LedTo env placed →
    mock.ImportsEnumerations env.store

section Layers

variable {ask : Resolver} (hask : ∀ env membership placed mock,
  (ask env membership placed).Gives mock → ImportsWhatItUses env membership placed mock)
  {env : Environment} (hrules : env.rules.inOrder = [])
  (hformats : env.settings.formats.entries = [])

include hask hrules hformats

/-- The properties of a schema make an object that has what it needs from the imports of all. -/
theorem importsEnumerations_own (settings : Settings) (required : List String)
    {emitted : List String} {site : Site} {properties : List (String × Schema)}
    {mocks : List (String × Mock)}
    (hmocks : AnswersProperties ask env emitted site properties mocks) :
    (∀ e ∈ (ownProperties settings required mocks).map Prod.snd,
        Everywhere (NamesImported (importsOf (mocks.map Prod.snd))) e) ∧
      ∀ i ∈ importsOf (mocks.map Prod.snd), i.Backed env.store := by
  have hanswers : ∀ mock ∈ mocks.map Prod.snd, mock.ImportsEnumerations env.store := by
    intro mock hmock
    obtain ⟨part, -, site', hgives⟩ := hmocks.gives mock hmock
    exact hask _ _ _ _ hgives hrules hformats (ledTo_none _ _ _)
  have hnil : ∀ i ∈ ([] : List Import), i.Backed env.store := nofun
  obtain ⟨hused, hbacked⟩ := importsEnumerations_behind hnil hanswers
  exact ⟨everywhere_ownProperties (objectsAndTexts_namesImported _) hused, hbacked⟩

/-- Each member that is merged brings the imports that it needs. -/
theorem importsEnumerations_merged {site : Site} {members : List Schema} {begin merge : Merge}
    (hbegin : begin.NamesImported begin.imports) (hbacked : ∀ i ∈ begin.imports, i.Backed env.store)
    (hmerge : AnswersMerged ask env site members begin merge) :
    merge.NamesImported merge.imports ∧ ∀ i ∈ merge.imports, i.Backed env.store := by
  refine hmerge.invariant (I := fun merge => merge.NamesImported merge.imports ∧
    ∀ i ∈ merge.imports, i.Backed env.store) ⟨hbegin, hbacked⟩ ?_
  rintro member - merge mock ⟨h, hmergeBacked⟩ hgives
  have hmock := hask _ _ _ _ hgives hrules hformats (ledTo_none _ _ _)
  rw [imports_addMember]
  constructor
  · have hleft : merge.imports ⊆ withImports merge.imports mock.imports :=
      fun i hi => mem_withImports.mpr (Or.inl hi)
    have hright : mock.imports ⊆ withImports merge.imports mock.imports :=
      fun i hi => mem_withImports.mpr (Or.inr hi)
    exact (h.mono hleft).addMember (everywhere_namesImported_mono hmock.used hright)
  · intro i hi
    rcases mem_withImports.mp hi with hi | hi
    · exact hmergeBacked i hi
    · exact hmock.backed i hi

theorem importsEnumerations_of_makesOfParts {membership : Option Membership}
    {placed : PlacedSchema} {mock : Mock} (hled : LedTo env placed)
    (h : MakesOfParts ask env membership placed mock) : mock.ImportsEnumerations env.store := by
  cases h with
  | @named keywords site name values hvalues =>
    constructor
    case used =>
      refine everywhere_orNull (objectsAndTexts_namesImported _) ?_ _
      refine everywhere_primitive.mpr fun other heq => ?_
      have hname := namedEnumeration_injective (Expression.primitive.inj heq)
      exact ⟨_, List.mem_cons_self, hname, rfl⟩
    case backed =>
      intro i hi
      rw [List.mem_singleton.mp hi]
      exact backed_of_ledTo hled hvalues
  | listed =>
    exact ⟨everywhere_orNull (objectsAndTexts_namesImported _)
      (everywhere_namesImported_of_begins (beginsOtherwise_listed _)) _, nofun⟩
  | @plain keywords =>
    refine ⟨everywhere_orNull (objectsAndTexts_namesImported _) ?_ _, nofun⟩
    rcases PlainSchema.expression_cases env.settings keywords with h | ⟨text, h, htext⟩
    · rw [h]
      exact everywhere_null.mpr nofun
    · rw [h]
      exact everywhere_namesImported_of_begins (beginsOtherwise_plain hformats htext)
  | array hitem =>
    have hmock := hask _ _ _ _ hitem hrules hformats (ledTo_none _ _ _)
    exact importsEnumerations_composed (everywhere_array.mpr ⟨nofun, hmock.used⟩) hmock.backed
  | object hmocks =>
    obtain ⟨hused, hbacked⟩ :=
      importsEnumerations_own hask hrules hformats env.settings _ hmocks
    exact importsEnumerations_composed (everywhere_object.mpr ⟨nofun, hused⟩) hbacked
  | @merged keywords properties members site definition mocks own merge hmocks hown hmerge =>
    obtain ⟨hused, hbacked⟩ :=
      importsEnumerations_own hask hrules hformats env.settings _ hmocks
    rw [← hown] at hused
    have hmerged : merge.NamesImported merge.imports ∧ ∀ i ∈ merge.imports, i.Backed env.store := by
      refine importsEnumerations_merged hask hrules hformats ?_ hbacked hmerge
      exact ⟨hused, fun e he => by cases he⟩
    exact importsEnumerations_composed hmerged.1.expression hmerged.2
  | @chosen keywords combinator properties members site definition mocks own variants _ hmocks hown
      hvariants =>
    obtain ⟨hused, hbacked⟩ :=
      importsEnumerations_own hask hrules hformats env.settings _ hmocks
    rw [← hown] at hused
    have hanswers : ∀ variant ∈ variants, variant.ImportsEnumerations env.store := by
      intro variant hvariant
      obtain ⟨member, -, hgives⟩ := hvariants.gives variant hvariant
      exact hask _ _ _ _ hgives hrules hformats (ledTo_none _ _ _)
    obtain ⟨hvariantsUsed, hallBacked⟩ := importsEnumerations_behind hbacked hanswers
    have hsubset : importsOf (mocks.map Prod.snd)
        ⊆ importsBehind (importsOf (mocks.map Prod.snd)) variants :=
      fun i hi => mem_importsBehind.mpr (Or.inl hi)
    have hownUsed := fun e he => everywhere_namesImported_mono (hused e he) hsubset
    refine importsEnumerations_composed ?_ hallBacked
    refine everywhere_chosen (objectsAndTexts_namesImported _)
      (everywhere_object.mpr ⟨nofun, hownUsed⟩) fun e he => ?_
    obtain ⟨variant, hvariant, rfl⟩ := List.mem_map.mp he
    exact everywhere_behind hownUsed (hvariantsUsed variant hvariant) fun _ _ => nofun

theorem importsEnumerations_of_makes {membership : Option Membership} {placed : PlacedSchema}
    {mock : Mock} (hled : LedTo env placed) (h : Makes ask env membership placed mock) :
    mock.ImportsEnumerations env.store := by
  cases h with
  | asked h => exact hask _ _ _ _ h hrules hformats hled
  | overridden _ hrule =>
    rw [hrules] at hrule
    cases hrule
  | constant =>
    refine ⟨everywhere_orNull (objectsAndTexts_namesImported _) ?_ _, nofun⟩
    exact everywhere_namesImported_of_begins (beginsOtherwise_compact _)
  | made _ _ _ h => exact importsEnumerations_of_makesOfParts hask hrules hformats hled h

end Layers

/-- **A resolution imports the enumerations that it uses.** -/
theorem resolver_importsWhatItUses {env : Environment} {membership : Option Membership}
    {placed : PlacedSchema} {mock : Mock} (h : (resolver env membership placed).Gives mock) :
    ImportsWhatItUses env membership placed mock := by
  refine resolver_induction (P := ImportsWhatItUses) ?_ ?_ ?_ h
  · intro env membership placed mock h hrules hformats hled
    obtain ⟨hused, hbacked⟩ := h hrules hformats hled
    constructor
    · rw [Schema.expression_typed, Schema.imports_typed]
      exact hused
    · rw [Schema.imports_typed]
      exact hbacked
  · intro env membership reference site definition mock h hrules hformats _
    exact h hrules hformats (ledTo_followed env reference site)
  · intro ask hask env membership placed mock h hrules hformats hled
    exact importsEnumerations_of_makes hask hrules hformats hled h

/-- **An enumeration that is used by its name is imported from where it stands.**  Where no rule and
no format of the settings puts in a text of its own, whatever enumeration is used by its name,
anywhere in the mock of a schema that no reference led to, is imported as a value under that name;
and every import has the name and the document that a reference gives to an enumeration which the
documents hold. -/
theorem enumerations_imported_from_definitions (env : Environment) (membership : Option Membership)
    (placed : PlacedSchema) (trace after : Trace) (mock : Mock) (hrules : env.rules.inOrder = [])
    (hformats : env.settings.formats.entries = []) (hdefinition : placed.definition = none)
    (hok : (placed.resolve mockResolver env membership).outcome trace = (.ok mock, after)) :
    (∀ name, Expression.Occurs (.primitive (namedEnumeration name)) mock.expression →
      ∃ i ∈ mock.imports, i.name = name ∧ i.asValue = true) ∧
    ∀ i ∈ mock.imports, i.Backed env.store := by
  have hled : LedTo env placed := by
    intro name hname
    rw [hdefinition] at hname
    cases hname
  have hgives : (resolver env membership placed).Gives mock := ⟨trace, after, hok⟩
  obtain ⟨hused, hbacked⟩ := resolver_importsWhatItUses hgives hrules hformats hled
  exact ⟨fun name hoccurs => hused _ hoccurs name rfl, hbacked⟩

/-- A document whose light is once the state of another document, or of a third one by way of it. -/
def lightDocument : Json :=
  .obj [("components", .obj [("schemas", .obj [
    ("Light", .obj [("allOf", .arr [
      .obj [("properties", .obj [("state", referenceNode "shared/states.json#/State")])],
      .obj [("properties", .obj [("colours", .obj [("type", .str "array"),
        ("items", referenceNode "shared/states.json#/Colour")])])]])])])])]

/-- A document with states, which has its colours from another document. -/
def stateDocument : Json :=
  .obj [("State", .obj [("enum", .arr [.str "on", .str "off"])]),
    ("Colour", referenceNode "colours.json#/Hue")]

/-- A document of colours. -/
def colourDocument : Json :=
  .obj [("Hue", .obj [("nullable", .bool true), ("enum", .arr [.str "red", .str "blue"])])]

/-- The light document at hand, next to those of states and colours. -/
def lightEnvironment : Environment :=
  { listEnvironment with
    documentKey := "api.json"
    store := .ofList [("api.json", lightDocument), ("shared/states.json", stateDocument),
      ("shared/colours.json", colourDocument)] }

theorem enumerations_imported_from_definitions_light :
    ∃ mock after, ((PlacedSchema.reference "#/components/schemas/Light" ⟨"", none⟩).resolve
        mockResolver lightEnvironment none).outcome .empty = (.ok mock, after) ∧
      Expression.Occurs (.primitive (namedEnumeration "Hue")) mock.expression ∧
      (∀ name, Expression.Occurs (.primitive (namedEnumeration name)) mock.expression →
        ∃ i ∈ mock.imports, i.name = name ∧ i.asValue = true) ∧
      ∀ i ∈ mock.imports, i.Backed lightEnvironment.store := by
  have hok : ((PlacedSchema.reference "#/components/schemas/Light" ⟨"", none⟩).resolve
      mockResolver lightEnvironment none).outcome .empty = (.ok _, _) := rfl
  refine ⟨_, _, hok, ?_, enumerations_imported_from_definitions lightEnvironment none
    (.reference "#/components/schemas/Light" ⟨"", none⟩) .empty _ _ rfl rfl rfl hok⟩
  exact .property (.tail _ (.head _)) (.choice (.head _) (.item (.choice (.head _) (.here _))))

end SchemaMock
