/-
# What is written down is read back

Mocks, their parts and options can be written down as documents.  Every such document names nothing
twice, so it does not matter how repeated names are dealt with, and what is read from it is what was
written: an expression however deep, whole numbers up to the last one of 64 bits, any texts, tables
in their order, and fields that may be left out.

`Json.Keeps` says so of a way to write and a way to read.  It is kept by lists and tables, so each
record is a matter of its fields.  An expression is read by its tag first, and is an induction on
the expression.
-/
import SchemaMock.Mock.Codec
import SchemaMock.Options
import SchemaMock.Proofs.Reading

namespace SchemaMock

/-! ## 1. Parts of documents -/

namespace Json

variable {α : Type} {encode : α → Json} {decode : Json → Option α}

/-- What is written names nothing twice and is read back as it was. -/
def Keeps (encode : α → Json) (decode : Json → Option α) : Prop :=
  ∀ a, (encode a).Distinct ∧ decode (encode a) = some a

theorem text_keeps : Keeps str text? := fun _ => ⟨trivial, rfl⟩

theorem word?_ofNat (n : UInt64) : word? (ofNat n.toNat) = some n := by
  have hbound : n.toNat < wordLimit := n.toNat_lt
  have hinside : (0 : Int) ≤ n.toNat ∧ (n.toNat : Int) < wordLimit :=
    ⟨Int.natCast_nonneg _, Int.ofNat_lt.mpr hbound⟩
  rw [ofNat, word?, if_pos hinside, Int.toNat_natCast, UInt64.ofNat_toNat]

theorem bind_word?_eq_some {key : String} {members : Entries Json} {n : UInt64}
    (h : Entries.get? key members = some (ofNat n.toNat)) :
    (Entries.get? key members).bind word? = some n := by
  rw [h, Option.bind_some, word?_ofNat]

theorem mapM_map_of_forall {β : Type} {f : α → β} {g : β → Option α} {as : List α}
    (h : ∀ a ∈ as, g (f a) = some a) : (as.map f).mapM g = some as := by
  induction as with
  | nil => rfl
  | cons a rest ih =>
    obtain ⟨hfirst, hrest⟩ := List.forall_mem_cons.mp h
    rw [List.map_cons, List.mapM_cons, hfirst, ih hrest]
    rfl

theorem Keeps.list (h : Keeps encode decode) :
    Keeps (fun as => arr (as.map encode)) (listOf? decode) := by
  refine fun as => ⟨distinct_arr fun item hitem => ?_, mapM_map_of_forall fun a _ => (h a).2⟩
  obtain ⟨a, -, rfl⟩ := List.mem_map.mp hitem
  exact (h a).1

theorem distinctMembers_of_forall : ∀ {members : List (String × Json)},
    (∀ member ∈ members, member.2.Distinct) → DistinctMembers members
  | [], _ => trivial
  | member :: _, h => ⟨h member List.mem_cons_self,
      distinctMembers_of_forall fun other hother => h other (List.mem_cons_of_mem _ hother)⟩

/-- A table keeps its order. -/
theorem Keeps.table (h : Keeps encode decode) : Keeps (ofTable encode) (tableOf? decode) := by
  refine fun table => ⟨⟨?_, distinctMembers_of_forall fun member hmember => ?_⟩, ?_⟩
  · rw [Entries.keys, List.map_map]
    exact table.nodup
  · obtain ⟨e, -, rfl⟩ := List.mem_map.mp hmember
    exact (h e.2).1
  · have hmembers : (table.entries.map fun e => (e.1, encode e.2)).mapM
        (fun m => (decode m.2).map fun a => (m.1, a)) = some table.entries :=
      mapM_map_of_forall fun e _ => by rw [(h e.2).2, Option.map_some]
    rw [ofTable, tableOf?, members?, Option.bind_some, hmembers, Option.map_some,
      OrderedMap.ofList_entries]

end Json

/-! ## 2. Words and memberships -/

theorem InstanceType.keeps : Json.Keeps InstanceType.toJson InstanceType.ofJson? :=
  fun t => ⟨trivial, ofName?_name t⟩

theorem Combinator.keeps : Json.Keeps Combinator.toJson Combinator.ofJson? :=
  fun c => ⟨trivial, ofKeyword?_keyword c⟩

theorem Membership.keeps : Json.Keeps Membership.toJson Membership.ofJson? := by
  intro m
  obtain ⟨hcombinator, hcombinatorRead⟩ := Combinator.keeps m.combinator
  obtain ⟨hemitted, hemittedRead⟩ := Json.text_keeps.list m.emitted
  have hfields : m.toJson.fields? ["separator", "includedProperties"]
      = some [some m.combinator.toJson, some (.arr (m.emitted.map .str))] := rfl
  refine ⟨⟨(by decide : ["separator", "includedProperties"].Nodup), hcombinator, hemitted,
    trivial⟩, ?_⟩
  rw [ofJson?, hfields]
  simp only [Option.bind_eq_bind, Option.bind_some, hcombinatorRead, hemittedRead]

/-! ## 3. Expressions -/

namespace Expression

/-- What holds of an expression whenever it holds of its parts holds of every expression. -/
theorem parts_induction {P : Expression → Prop} (primitive : ∀ text, P (.primitive text))
    (null : P .null) (undefined : P .undefined)
    (oneOf : ∀ choices, (∀ e ∈ choices, P e) → P (.oneOf choices))
    (object : ∀ properties, (∀ p ∈ properties, P p.2) → P (.object properties))
    (array : ∀ item min max, P item → P (.array item min max)) (e : Expression) : P e := by
  refine @Expression.rec P (fun choices => ∀ e ∈ choices, P e)
    (fun properties => ∀ p ∈ properties, P p.2) (fun p => P p.2) primitive null undefined oneOf
    object array ?_ ?_ ?_ ?_ ?_ e
  · exact List.forall_mem_nil _
  · exact fun _ _ hfirst hrest => List.forall_mem_cons.mpr ⟨hfirst, hrest⟩
  · exact List.forall_mem_nil _
  · exact fun _ _ hfirst hrest => List.forall_mem_cons.mpr ⟨hfirst, hrest⟩
  · exact fun _ _ h => h

/-- A property as a document. -/
def propertyJson (property : String × Expression) : Json :=
  .obj [("key", .str property.1), ("value", toJson property.2)]

theorem toJsonList_eq (choices : List Expression) : toJsonList choices = choices.map toJson := by
  induction choices with
  | nil => rfl
  | cons e rest ih => rw [toJsonList, ih, List.map_cons]

theorem toJsonProperties_eq (properties : List (String × Expression)) :
    toJsonProperties properties = properties.map propertyJson := by
  induction properties with
  | nil => rfl
  | cons p rest ih => rw [toJsonProperties, ih, List.map_cons, propertyJson]

theorem decodeAll_eq (items : List Json) : decodeAll items = items.mapM (decode? true) := by
  induction items with
  | nil => rw [decodeAll, List.mapM_nil]; rfl
  | cons item rest ih => rw [decodeAll, ih, List.mapM_cons]; rfl

theorem decodeProperties_eq (items : List Json) :
    decodeProperties items = items.mapM decodeProperty := by
  induction items with
  | nil => rw [decodeProperties, List.mapM_nil]; rfl
  | cons item rest ih => rw [decodeProperties, ih, List.mapM_cons]; rfl

/-- A kind is told by its word, wherever it stands. -/
theorem Tag.ofJson?_name (nested : Bool) (t : Tag) : ofJson? nested (.str t.name) = some t := by
  cases t <;> rfl

theorem distinct_toJson (e : Expression) : e.toJson.Distinct := by
  induction e using parts_induction with
  | primitive text => exact ⟨(by decide : ["type", "value"].Nodup), trivial, trivial, trivial⟩
  | null => exact ⟨List.nodup_singleton "type", trivial, trivial⟩
  | undefined => exact ⟨List.nodup_singleton "type", trivial, trivial⟩
  | oneOf choices ih =>
    have hchoices : (Json.arr (toJsonList choices)).Distinct := by
      rw [toJsonList_eq]
      exact Json.distinct_arr (List.forall_mem_map.mpr ih)
    exact ⟨(by decide : ["type", "values"].Nodup), trivial, hchoices, trivial⟩
  | object properties ih =>
    have hproperties : (Json.arr (toJsonProperties properties)).Distinct := by
      rw [toJsonProperties_eq]
      refine Json.distinct_arr (List.forall_mem_map.mpr fun p hp => ?_)
      exact ⟨(by decide : ["key", "value"].Nodup), trivial, ih p hp, trivial⟩
    exact ⟨(by decide : ["type", "properties"].Nodup), trivial, hproperties, trivial⟩
  | array item min max ih =>
    exact ⟨(by decide : ["type", "item", "min", "max"].Nodup), trivial, ih, trivial, trivial,
      trivial⟩

theorem decodeProperty_propertyJson {property : String × Expression}
    (h : decode? true property.2.toJson = some property.2) :
    decodeProperty (propertyJson property) = some property := by
  have hkey : Entries.get? "key" [("key", .str property.1), ("value", property.2.toJson)]
      = some (.str property.1) := rfl
  have hvalue : expressionIn "value" [("key", .str property.1), ("value", property.2.toJson)]
      = some property.2 := by
    rw [expressionIn, if_neg (by decide), expressionIn, if_pos rfl, h]
  rw [propertyJson, decodeProperty, hkey, hvalue]
  rfl

/-- An expression is read back wherever it stands. -/
theorem decode?_toJson (e : Expression) : ∀ nested, decode? nested e.toJson = some e := by
  induction e using parts_induction with
  | primitive text =>
    intro nested
    have htag : Tag.ofJson? nested (.str "primitive") = some .primitive :=
      Tag.ofJson?_name nested .primitive
    rw [toJson, decode?, Entries.get?, if_pos rfl, Option.bind_some, htag]
    rfl
  | null =>
    intro nested
    have htag : Tag.ofJson? nested (.str "null") = some .null := Tag.ofJson?_name nested .null
    rw [toJson, decode?, Entries.get?, if_pos rfl, Option.bind_some, htag]
  | undefined =>
    intro nested
    have htag : Tag.ofJson? nested (.str "undefined") = some .undefined :=
      Tag.ofJson?_name nested .undefined
    rw [toJson, decode?, Entries.get?, if_pos rfl, Option.bind_some, htag]
  | oneOf choices ih =>
    intro nested
    have htag : Tag.ofJson? nested (.str "one_of") = some .oneOf :=
      Tag.ofJson?_name nested .oneOf
    have hitems : decodeAll (toJsonList choices) = some choices := by
      rw [decodeAll_eq, toJsonList_eq]
      exact Json.mapM_map_of_forall fun e he => ih e he true
    have hvalues : choicesIn [("type", .str "one_of"), ("values", .arr (toJsonList choices))]
        = some choices := by
      rw [choicesIn, if_neg (by decide), choicesIn, if_pos rfl, choicesOf, hitems]
    rw [toJson, decode?, Entries.get?, if_pos rfl, Option.bind_some, htag]
    simp only [hvalues, Option.map_some]
  | object properties ih =>
    intro nested
    have htag : Tag.ofJson? nested (.str "object") = some .object :=
      Tag.ofJson?_name nested .object
    have hitems : decodeProperties (toJsonProperties properties) = some properties := by
      rw [decodeProperties_eq, toJsonProperties_eq]
      exact Json.mapM_map_of_forall fun p hp => decodeProperty_propertyJson (ih p hp true)
    have hproperties : propertiesIn
        [("type", .str "object"), ("properties", .arr (toJsonProperties properties))]
        = some properties := by
      rw [propertiesIn, if_neg (by decide), propertiesIn, if_pos rfl, propertiesOf, hitems]
    rw [toJson, decode?, Entries.get?, if_pos rfl, Option.bind_some, htag]
    simp only [hproperties, Option.map_some]
  | array item min max ih =>
    intro nested
    have htag : Tag.ofJson? nested (.str "array") = some .array := Tag.ofJson?_name nested .array
    rw [toJson, decode?, Entries.get?, if_pos rfl, Option.bind_some, htag]
    have hitem : expressionIn "item" [("type", .str "array"), ("item", toJson item),
        ("min", .ofNat min.toNat), ("max", .ofNat max.toNat)] = some item := by
      rw [expressionIn, if_neg (by decide), expressionIn, if_pos rfl, ih true]
    have hmin : (Entries.get? "min" [("type", .str "array"), ("item", toJson item),
        ("min", .ofNat min.toNat), ("max", .ofNat max.toNat)]).bind Json.word? = some min :=
      Json.bind_word?_eq_some rfl
    have hmax : (Entries.get? "max" [("type", .str "array"), ("item", toJson item),
        ("min", .ofNat min.toNat), ("max", .ofNat max.toNat)]).bind Json.word? = some max :=
      Json.bind_word?_eq_some rfl
    simp only [hitem, hmin, hmax, Option.bind_eq_bind, Option.bind_some]

theorem keeps : Json.Keeps toJson ofJson? := fun e => ⟨distinct_toJson e, decode?_toJson e false⟩

end Expression

/-! ## 4. Mocks -/

namespace Json

/-- A field that says nothing is left out, and is read so. -/
theorem optional_map {α : Type} (encode : α → Json) (decode : Json → Option α)
    (h : ∀ a, decode (encode a) = some a) (hnull : ∀ a, encode a ≠ .null) (field : Option α) :
    optional decode (field.map encode) = some field := by
  cases field with
  | none => rfl
  | some a =>
    rw [Option.map_some, optional, h a, Option.map_some]
    exact hnull a

end Json

theorem Import.keeps : Json.Keeps Import.toJson Import.ofJson? := by
  intro i
  have hfields : i.toJson.fields? ["name", "specKey", "values"]
      = some [some (.str i.name), i.document.map .str, some (.bool i.asValue)] := by
    obtain ⟨name, document, asValue⟩ := i
    cases document <;> rfl
  have hdocument : Json.optional Json.text? (i.document.map .str) = some i.document :=
    Json.optional_map .str Json.text? (fun _ => rfl) (fun _ => nofun) i.document
  constructor
  · obtain ⟨name, document, asValue⟩ := i
    cases document with
    | none => exact ⟨(by decide : ["name", "values"].Nodup), trivial, trivial, trivial⟩
    | some key =>
      exact ⟨(by decide : ["name", "specKey", "values"].Nodup), trivial, trivial, trivial, trivial⟩
  · rw [ofJson?, hfields]
    simp only [Option.bind_eq_bind, Option.bind_some, Json.text?, hdocument, Json.withDefault,
      Json.bool?]

theorem Mock.keeps : Json.Keeps Mock.toJson Mock.ofJson? := by
  intro m
  obtain ⟨hexpression, hexpressionRead⟩ := Expression.keeps m.expression
  obtain ⟨himports, himportsRead⟩ := Import.keeps.list m.imports
  have hfields : m.toJson.fields? ["value", "imports", "name", "overrided", "type"]
      = some [some m.expression.toJson, some (.arr (m.imports.map Import.toJson)),
          some (.str m.name), some (.bool m.overridden), m.type.map InstanceType.toJson] := by
    obtain ⟨expression, imports, name, overridden, type⟩ := m
    cases type <;> rfl
  have htype : Json.optional InstanceType.ofJson? (m.type.map InstanceType.toJson) = some m.type :=
    Json.optional_map InstanceType.toJson InstanceType.ofJson? (fun t => (InstanceType.keeps t).2)
      (fun _ => nofun) m.type
  constructor
  · obtain ⟨expression, imports, name, overridden, type⟩ := m
    cases type with
    | none =>
      exact ⟨(by decide : ["value", "imports", "name", "overrided"].Nodup), hexpression, himports,
        trivial, trivial, trivial⟩
    | some t =>
      exact ⟨(by decide : ["value", "imports", "name", "overrided", "type"].Nodup), hexpression,
        himports, trivial, trivial, trivial, trivial⟩
  · rw [ofJson?, hfields]
    simp only [Option.bind_eq_bind, Option.bind_some, hexpressionRead, himportsRead, Json.text?,
      Json.bool?, htype]

/-! ## 5. Options -/

theorem ScopeRules.keeps : Json.Keeps ScopeRules.toJson ScopeRules.ofJson? := by
  intro s
  obtain ⟨hrules, hrulesRead⟩ := Json.text_keeps.table s.rules
  have hfields : s.toJson.fields? ["properties"] = some [some (Json.ofTable .str s.rules)] := rfl
  refine ⟨⟨List.nodup_singleton "properties", hrules, trivial⟩, ?_⟩
  rw [ofJson?, hfields]
  simp only [Option.bind_eq_bind, Option.bind_some, Json.withDefault, hrulesRead]

theorem Options.keeps : Json.Keeps Options.toJson Options.ofJson? := by
  intro o
  obtain ⟨hrules, hrulesRead⟩ := Json.text_keeps.table o.rules
  obtain ⟨hoperations, hoperationsRead⟩ := ScopeRules.keeps.table o.operations
  obtain ⟨htags, htagsRead⟩ := ScopeRules.keeps.table o.tags
  obtain ⟨hformats, hformatsRead⟩ := Json.text_keeps.table o.formats
  have hfields : o.toJson.fields? fieldNames
      = some [some (Json.ofTable .str o.rules), some (Json.ofTable ScopeRules.toJson o.operations),
          some (Json.ofTable ScopeRules.toJson o.tags), some (Json.ofTable .str o.formats),
          some (.bool o.required), some (.ofNat o.arrayMin.toNat), some (.ofNat o.arrayMax.toNat),
          some (.bool o.useExamples)] := rfl
  have hwords : ∀ preset n : UInt64,
      Json.withDefault preset Json.word? (some (.ofNat n.toNat)) = some n := by
    intro preset n
    rw [Json.withDefault, Json.word?_ofNat]
  refine ⟨⟨(by decide : fieldNames.Nodup), hrules, hoperations, htags, hformats, trivial, trivial,
    trivial, trivial, trivial⟩, ?_⟩
  rw [ofJson?, hfields]
  simp only [Option.bind_eq_bind, Option.bind_some, hwords]
  simp only [Json.withDefault, hrulesRead, hoperationsRead, htagsRead, hformatsRead, Json.bool?,
    Option.bind_some]

/-- **What is written down is read back.**  An expression, a mock, an import, a membership and
options are each written as a document that names nothing twice, and what is read from that document
is what was written. -/
theorem written_is_read_back :
    (∀ e : Expression, e.toJson.Distinct ∧ Expression.ofJson? e.toJson = some e) ∧
    (∀ m : Mock, m.toJson.Distinct ∧ Mock.ofJson? m.toJson = some m) ∧
    (∀ i : Import, i.toJson.Distinct ∧ Import.ofJson? i.toJson = some i) ∧
    (∀ m : Membership, m.toJson.Distinct ∧ Membership.ofJson? m.toJson = some m) ∧
    ∀ o : Options, o.toJson.Distinct ∧ Options.ofJson? o.toJson = some o :=
  ⟨Expression.keeps, Mock.keeps, Import.keeps, Membership.keeps, Options.keeps⟩

end SchemaMock
