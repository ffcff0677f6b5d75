/-
# Schemas inside schemas, and nodes inside nodes

A schema is made of parts, a node of a document is made of children, and the schema that a node
holds is made of schemas that its descendants hold (`mem_parts_ofJson`).  Four things follow from
that one fact: the tree of a schema is no deeper than the node it was read from (`depth_ofJson_le`),
a reference that stands somewhere in the schema stands somewhere in the node
(`mem_references_of_mentions`), a node without repeated names holds a schema without repeated names
(`distinctNames_ofJson`), and whatever goes from parts to wholes holds of every schema
(`partsInduction`).
-/
import SchemaMock.Pointer
import SchemaMock.Schema.Tree

namespace SchemaMock

/-! ## 1. Parts of schemas -/

namespace Schema

/-- The schemas that a schema is made of. -/
def parts : Schema → List Schema
  | .reference _ => []
  | .combined _ _ properties members => properties.map Prod.snd ++ members
  | .array _ items => [items]
  | .object _ properties => properties.map Prod.snd
  | .plain _ => []

/-- The names of the properties of a schema, in order. -/
def propertyNames : Schema → List String
  | .combined _ _ properties _ => properties.map Prod.fst
  | .object _ properties => properties.map Prod.fst
  | _ => []

theorem sizeOf_lt_of_mem_properties {part : Schema} {properties : List (String × Schema)}
    (h : part ∈ properties.map Prod.snd) : sizeOf part < sizeOf properties := by
  obtain ⟨⟨key, schema⟩, hmem, rfl⟩ := List.mem_map.mp h
  have h1 := List.sizeOf_lt_of_mem hmem
  have h2 : sizeOf (key, schema) = 1 + sizeOf key + sizeOf schema := rfl
  simp only
  omega

theorem sizeOf_lt_of_mem_parts {schema part : Schema} (h : part ∈ schema.parts) :
    sizeOf part < sizeOf schema := by
  cases schema with
  | reference target => simp [parts] at h
  | combined keywords combinator properties members =>
    rw [combined.sizeOf_spec]
    rcases List.mem_append.mp h with h | h
    · have := sizeOf_lt_of_mem_properties h
      omega
    · have := List.sizeOf_lt_of_mem h
      omega
  | array keywords items =>
    rw [List.mem_singleton.mp h, array.sizeOf_spec]
    omega
  | object keywords properties =>
    have := sizeOf_lt_of_mem_properties h
    rw [object.sizeOf_spec]
    omega
  | plain keywords => simp [parts] at h

/-- What holds of a schema whenever it holds of its parts holds of every schema. -/
theorem partsInduction {P : Schema → Prop} (step : ∀ s, (∀ p ∈ s.parts, P p) → P s)
    (s : Schema) : P s :=
  step s fun p _hp => partsInduction step p
termination_by sizeOf s
decreasing_by exact sizeOf_lt_of_mem_parts _hp

/-- A reference to `target` stands somewhere in a schema. -/
inductive Mentions : Schema → String → Prop
  | here (target : String) : Mentions (.reference target) target
  | inside {schema part : Schema} {target : String} (hpart : part ∈ schema.parts)
      (h : Mentions part target) : Mentions schema target

/-- The schema that says nothing mentions nothing. -/
theorem not_mentions_empty (target : String) : ¬ Mentions .empty target := by
  intro h
  cases h with
  | inside hpart _ => simp [empty, parts] at hpart

mutual
/-- How many schemas stand inside one another at most. -/
def depth : Schema → Nat
  | .reference _ => 1
  | .combined _ _ properties members => 1 + max (depthOfProperties properties) (depthOfAll members)
  | .array _ items => 1 + depth items
  | .object _ properties => 1 + depthOfProperties properties
  | .plain _ => 1

/-- The depth of the deepest property. -/
def depthOfProperties : List (String × Schema) → Nat
  | [] => 0
  | (_, schema) :: rest => max (depth schema) (depthOfProperties rest)

/-- The depth of the deepest of several schemas. -/
def depthOfAll : List Schema → Nat
  | [] => 0
  | schema :: rest => max (depth schema) (depthOfAll rest)
end

theorem one_le_depth (schema : Schema) : 1 ≤ schema.depth := by
  cases schema <;> simp [depth]

theorem depth_le_depthOfAll {part : Schema} : ∀ {schemas : List Schema},
    part ∈ schemas → part.depth ≤ depthOfAll schemas
  | schema :: rest, h => by
    simp only [depthOfAll]
    rcases List.mem_cons.mp h with rfl | h
    · exact Nat.le_max_left _ _
    · exact Nat.le_trans (depth_le_depthOfAll h) (Nat.le_max_right _ _)

theorem depthOfProperties_eq : ∀ properties : List (String × Schema),
    depthOfProperties properties = depthOfAll (properties.map Prod.snd)
  | [] => rfl
  | (_, schema) :: rest => by
    simp only [depthOfProperties, List.map_cons, depthOfAll, depthOfProperties_eq rest]

/-- A part is less deep than the whole. -/
theorem depth_lt_of_mem_parts {schema part : Schema} (h : part ∈ schema.parts) :
    part.depth < schema.depth := by
  cases schema with
  | reference target => simp [parts] at h
  | combined keywords combinator properties members =>
    simp only [depth, depthOfProperties_eq]
    rcases List.mem_append.mp h with h | h
    · have := depth_le_depthOfAll h
      omega
    · have := depth_le_depthOfAll h
      omega
  | array keywords items =>
    rw [List.mem_singleton.mp h, depth]
    omega
  | object keywords properties =>
    have h : part ∈ properties.map Prod.snd := h
    have := depth_le_depthOfAll h
    simp only [depth, depthOfProperties_eq]
    omega
  | plain keywords => simp [parts] at h

theorem depthOfAll_le {n : Nat} : ∀ {schemas : List Schema},
    (∀ part ∈ schemas, part.depth ≤ n) → depthOfAll schemas ≤ n
  | [], _ => Nat.zero_le n
  | schema :: rest, h => by
    rw [depthOfAll]
    exact Nat.max_le.mpr ⟨h schema List.mem_cons_self,
      depthOfAll_le fun part hpart => h part (List.mem_cons_of_mem _ hpart)⟩

/-- A schema is at most one deeper than its deepest part. -/
theorem depth_le_of_parts {schema : Schema} {n : Nat} (h : ∀ part ∈ schema.parts, part.depth ≤ n) :
    schema.depth ≤ n + 1 := by
  cases schema with
  | reference target => simp [depth]
  | combined keywords combinator properties members =>
    have h1 := depthOfAll_le fun part hpart => h part (List.mem_append_left members hpart)
    have h2 := depthOfAll_le fun part hpart =>
      h part (List.mem_append_right (properties.map Prod.snd) hpart)
    simp only [depth, depthOfProperties_eq]
    omega
  | array keywords items =>
    have := h items List.mem_cons_self
    rw [depth]
    omega
  | object keywords properties =>
    have h : ∀ part ∈ properties.map Prod.snd, part.depth ≤ n := h
    have := depthOfAll_le h
    simp only [depth, depthOfProperties_eq]
    omega
  | plain keywords => simp [depth]

end Schema

/-! ## 2. Children of nodes -/

namespace Json

/-- The nodes one step below: the items of an array, or the values of the members of an object. -/
def children : Json → List Json
  | .arr items => items
  | .obj members => members.map Prod.snd
  | _ => []

mutual
/-- How many nodes stand inside one another at most. -/
def depth : Json → Nat
  | .arr items => 1 + depthOfItems items
  | .obj members => 1 + depthOfMembers members
  | _ => 1

/-- The depth of the deepest item. -/
def depthOfItems : List Json → Nat
  | [] => 0
  | item :: rest => max (depth item) (depthOfItems rest)

/-- The depth of the deepest member. -/
def depthOfMembers : List (String × Json) → Nat
  | [] => 0
  | (_, value) :: rest => max (depth value) (depthOfMembers rest)
end

theorem depth_le_depthOfItems {node : Json} : ∀ {items : List Json},
    node ∈ items → node.depth ≤ depthOfItems items
  | item :: rest, h => by
    simp only [depthOfItems]
    rcases List.mem_cons.mp h with rfl | h
    · exact Nat.le_max_left _ _
    · exact Nat.le_trans (depth_le_depthOfItems h) (Nat.le_max_right _ _)

theorem depth_le_depthOfMembers {node : Json} : ∀ {members : List (String × Json)},
    node ∈ members.map Prod.snd → node.depth ≤ depthOfMembers members
  | (key, value) :: rest, h => by
    simp only [depthOfMembers]
    rcases List.mem_cons.mp h with rfl | h
    · exact Nat.le_max_left _ _
    · exact Nat.le_trans (depth_le_depthOfMembers h) (Nat.le_max_right _ _)

theorem references_subset_ofItems {node : Json} : ∀ {items : List Json},
    node ∈ items → node.references ⊆ referencesOfItems items
  | item :: rest, h => by
    rw [referencesOfItems]
    rcases List.mem_cons.mp h with rfl | h
    · exact List.subset_append_left _ _
    · exact List.subset_append_of_subset_right _ (references_subset_ofItems h)

theorem references_subset_ofMembers {node : Json} : ∀ {members : List (String × Json)},
    node ∈ members.map Prod.snd → node.references ⊆ referencesOfMembers members
  | (key, value) :: rest, h => by
    unfold referencesOfMembers
    rcases List.mem_cons.mp h with rfl | h
    · refine List.subset_append_of_subset_left _ ?_
      -- a text under the key `$ref` is a reference, and has none in it
      split
      · simp [references]
      · exact List.Subset.refl _
    · exact List.subset_append_of_subset_right _ (references_subset_ofMembers h)

theorem distinct_of_mem_items {node : Json} : ∀ {items : List Json},
    node ∈ items → DistinctItems items → node.Distinct
  | item :: rest, h, hitems => by
    rcases List.mem_cons.mp h with rfl | h
    · exact hitems.1
    · exact distinct_of_mem_items h hitems.2

theorem distinct_of_mem_members {node : Json} : ∀ {members : List (String × Json)},
    node ∈ members.map Prod.snd → DistinctMembers members → node.Distinct
  | (key, value) :: rest, h, hmembers => by
    rcases List.mem_cons.mp h with rfl | h
    · exact hmembers.1
    · exact distinct_of_mem_members h hmembers.2

/-- `inner` stands deeper than `outer`, tells no other references, and names nothing twice if
`outer` does not. -/
structure Inside (inner outer : Json) : Prop where
  depth_lt : inner.depth < outer.depth
  references_subset : inner.references ⊆ outer.references
  distinct : outer.Distinct → inner.Distinct

theorem Inside.trans {a b c : Json} (hab : Inside a b) (hbc : Inside b c) : Inside a c :=
  ⟨Nat.lt_trans hab.depth_lt hbc.depth_lt,
    List.Subset.trans hab.references_subset hbc.references_subset,
    fun hc => hab.distinct (hbc.distinct hc)⟩

theorem inside_of_mem_children {inner outer : Json} (h : inner ∈ outer.children) :
    Inside inner outer := by
  cases outer with
  | arr items =>
    have h : inner ∈ items := h
    refine ⟨?_, references_subset_ofItems h, distinct_of_mem_items h⟩
    have := depth_le_depthOfItems h
    rw [depth]
    omega
  | obj members =>
    have h : inner ∈ members.map Prod.snd := h
    refine ⟨?_, references_subset_ofMembers h, fun hd => distinct_of_mem_members h hd.2⟩
    have := depth_le_depthOfMembers h
    rw [depth]
    omega
  | null | bool | num | str => simp [children] at h

/-- Nothing stands inside a node of an object that has no member. -/
theorem inside_null {members : List (String × Json)} (h : members ≠ []) :
    Inside .null (.obj members) := by
  obtain ⟨⟨key, value⟩, rest, rfl⟩ := List.exists_cons_of_ne_nil h
  refine ⟨?_, by simp [references], fun _ => trivial⟩
  have h1 : value.depth ≤ depthOfMembers ((key, value) :: rest) :=
    depth_le_depthOfMembers List.mem_cons_self
  have h2 : 1 ≤ value.depth := by cases value <;> simp [depth]
  simp only [depth]
  omega

end Json

/-! ## 3. The schema that a node holds -/

namespace Schema

open Json (Inside inside_of_mem_children inside_null)

theorem ofItems_eq : ∀ items : List Json, ofItems items = items.map ofJson
  | [] => rfl
  | item :: rest => by rw [ofItems, ofItems_eq rest, List.map_cons]

theorem ofMembers_eq : ∀ members : List (String × Json),
    ofMembers members = members.map fun e => (e.1, ofJson e.2)
  | [] => rfl
  | (key, value) :: rest => by rw [ofMembers, ofMembers_eq rest, List.map_cons]

theorem propertiesIn_eq : ∀ keywords : Keywords,
    propertiesIn keywords = ((Entries.get? "properties" keywords).map ofTable).getD []
  | [] => rfl
  | (key, value) :: rest => by
    rw [propertiesIn, Entries.get?]
    split
    · rfl
    · exact propertiesIn_eq rest

theorem itemsIn_eq : ∀ keywords : Keywords,
    itemsIn keywords = ((Entries.get? "items" keywords).map ofJson).getD .empty
  | [] => rfl
  | (key, value) :: rest => by
    rw [itemsIn, Entries.get?]
    split
    · rfl
    · exact itemsIn_eq rest

theorem membersIn_eq (keyword : String) : ∀ keywords : Keywords,
    membersIn keyword keywords = ((Entries.get? keyword keywords).map ofArray).getD []
  | [] => rfl
  | (key, value) :: rest => by
    rw [membersIn, Entries.get?]
    split
    · rfl
    · exact membersIn_eq keyword rest

/-- The value of a keyword stands inside the node. -/
theorem inside_of_get? {keyword : String} {keywords : Keywords} {value : Json}
    (h : Entries.get? keyword keywords = some value) : Inside value (.obj keywords) :=
  inside_of_mem_children (List.mem_map.mpr ⟨_, Entries.mem_of_get? h, rfl⟩)

theorem mem_propertiesIn {keywords : Keywords} {part : Schema}
    (h : part ∈ (propertiesIn keywords).map Prod.snd) :
    ∃ inner, Inside inner (.obj keywords) ∧ part = ofJson inner := by
  rw [propertiesIn_eq] at h
  cases hg : Entries.get? "properties" keywords with
  | none => simp [hg] at h
  | some table =>
    cases table with
    | obj members =>
      simp only [hg, Option.map_some, Option.getD_some, ofTable, ofMembers_eq, List.map_map,
        List.mem_map] at h
      obtain ⟨e, he, rfl⟩ := h
      exact ⟨e.2, (inside_of_mem_children (List.mem_map_of_mem he)).trans (inside_of_get? hg), rfl⟩
    | null | bool | num | str | arr => simp [hg, ofTable] at h

theorem mem_membersIn {keyword : String} {keywords : Keywords} {part : Schema}
    (h : part ∈ membersIn keyword keywords) :
    ∃ inner, Inside inner (.obj keywords) ∧ part = ofJson inner := by
  rw [membersIn_eq] at h
  cases hg : Entries.get? keyword keywords with
  | none => simp [hg] at h
  | some array =>
    cases array with
    | arr items =>
      simp only [hg, Option.map_some, Option.getD_some, ofArray, ofItems_eq, List.mem_map] at h
      obtain ⟨item, hitem, rfl⟩ := h
      exact ⟨item, (inside_of_mem_children hitem).trans (inside_of_get? hg), rfl⟩
    | null | bool | num | str | obj => simp [hg, ofArray] at h

/-- The items of an array about which nothing is said are read from nothing, which stands inside
every node that has a member. -/
theorem itemsIn_inside {keywords : Keywords} (h : keywords ≠ []) :
    ∃ inner, Inside inner (.obj keywords) ∧ itemsIn keywords = ofJson inner := by
  rw [itemsIn_eq]
  cases hg : Entries.get? "items" keywords with
  | none => exact ⟨.null, inside_null h, by simp [ofJson, empty]⟩
  | some items => exact ⟨items, inside_of_get? hg, rfl⟩

/-- **The parts of the schema that a node holds are held by nodes inside it.** -/
theorem mem_parts_ofJson {node : Json} {part : Schema} (h : part ∈ (ofJson node).parts) :
    ∃ inner, Inside inner node ∧ part = ofJson inner := by
  cases node with
  | obj keywords =>
    unfold ofJson at h
    split at h
    · simp [parts] at h
    · split at h
      · rcases List.mem_append.mp h with h | h
        · exact mem_propertiesIn h
        · exact mem_membersIn h
      · next hkind =>
        have hne : keywords ≠ [] := by
          rintro rfl
          simp [kind, Keywords.combinator?, Keywords.members?, Keywords.enumeration?,
            Keywords.type?, Keywords.format?, Entries.get?] at hkind
        obtain ⟨inner, hinner, heq⟩ := itemsIn_inside hne
        exact ⟨inner, hinner, (List.mem_singleton.mp h).trans heq⟩
      · exact mem_propertiesIn h
      · simp [parts] at h
  | null | bool | num | str | arr => simp [ofJson, parts] at h

/-- The tree of a schema is no deeper than the node that it was read from. -/
theorem depth_ofJson_le (node : Json) : (ofJson node).depth ≤ node.depth := by
  have hpos : node.depth ≠ 0 := by cases node <;> simp [Json.depth]
  obtain ⟨n, hn⟩ := Nat.exists_eq_succ_of_ne_zero hpos
  rw [hn]
  refine depth_le_of_parts fun part hpart => ?_
  obtain ⟨inner, hinner, rfl⟩ := mem_parts_ofJson hpart
  have hlt := hinner.depth_lt
  have := depth_ofJson_le inner
  omega
termination_by node.depth

/-- No table of properties in a schema names a property twice. -/
inductive DistinctNames : Schema → Prop
  | intro {schema : Schema} (hnames : schema.propertyNames.Nodup)
      (hparts : ∀ part ∈ schema.parts, DistinctNames part) : DistinctNames schema

theorem DistinctNames.names {schema : Schema} (h : schema.DistinctNames) :
    schema.propertyNames.Nodup := by
  cases h with
  | intro hnames _ => exact hnames

theorem DistinctNames.part {schema part : Schema} (h : schema.DistinctNames)
    (hpart : part ∈ schema.parts) : part.DistinctNames := by
  cases h with
  | intro _ hparts => exact hparts part hpart

/-- The names under the keyword `properties` are those of one object of the document. -/
theorem nodup_propertiesIn {keywords : Keywords} (h : (Json.obj keywords).Distinct) :
    ((propertiesIn keywords).map Prod.fst).Nodup := by
  rw [propertiesIn_eq]
  cases hg : Entries.get? "properties" keywords with
  | none => exact List.nodup_nil
  | some table =>
    cases table with
    | obj members =>
      have hmembers : (Entries.keys members).Nodup := ((inside_of_get? hg).distinct h).1
      simpa [ofTable, ofMembers_eq, Function.comp_def, Entries.keys] using hmembers
    | null | bool | num | str | arr => exact List.nodup_nil

/-- A node without repeated names holds a schema without repeated names. -/
theorem distinctNames_ofJson (node : Json) (h : node.Distinct) : (ofJson node).DistinctNames := by
  refine .intro ?_ fun part hpart => ?_
  · cases node with
    | obj keywords =>
      unfold ofJson
      split
      · exact List.nodup_nil
      · split
        · exact nodup_propertiesIn h
        · exact List.nodup_nil
        · exact nodup_propertiesIn h
        · exact List.nodup_nil
    | null | bool | num | str | arr => simp [ofJson, propertyNames]
  · obtain ⟨inner, hinner, rfl⟩ := mem_parts_ofJson hpart
    have := hinner.depth_lt
    exact distinctNames_ofJson inner (hinner.distinct h)
termination_by node.depth

theorem mem_referencesOfMembers {target : String} : ∀ {members : List (String × Json)},
    ("$ref", .str target) ∈ members → target ∈ Json.referencesOfMembers members
  | (key, value) :: rest, h => by
    unfold Json.referencesOfMembers
    rcases List.mem_cons.mp h with h | h
    · cases h
      simp
    · exact List.mem_append_right _ (mem_referencesOfMembers h)

/-- A reference in the place of a schema is a reference of the node. -/
theorem mem_references_of_ofJson_eq {node : Json} {target : String}
    (h : ofJson node = .reference target) : target ∈ node.references := by
  cases node with
  | obj keywords =>
    unfold ofJson at h
    split at h
    · next hr =>
      cases h
      obtain ⟨value, hg, ht⟩ := Option.bind_eq_some_iff.mp hr
      cases value with
      | str text =>
        cases ht
        exact mem_referencesOfMembers (Entries.mem_of_get? hg)
      | null | bool | num | arr | obj => simp [Json.text?] at ht
    · split at h <;> cases h
  | null | bool | num | str | arr => simp [ofJson] at h

/-- A reference that a schema mentions is a reference of the node that it was read from. -/
theorem mem_references_of_mentions {schema : Schema} {target : String}
    (h : schema.Mentions target) :
    ∀ {node : Json}, ofJson node = schema → target ∈ node.references := by
  induction h with
  | here target => exact fun heq => mem_references_of_ofJson_eq heq
  | inside hpart _ ih =>
    intro node heq
    rw [← heq] at hpart
    obtain ⟨inner, hinner, rfl⟩ := mem_parts_ofJson hpart
    exact hinner.references_subset (ih rfl)

end Schema

end SchemaMock
