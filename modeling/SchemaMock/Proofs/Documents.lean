/-
# Documents in another order

A document can be written down with the members of its objects in another order.  What is read from
it is then the same, as far as it is the value under a name; and the schema that a node holds is the
same but for the order of its properties (`Schema.reordered_ofJson`).

There is one exception.  The values of `const`, `example` and `enum` are printed as they stand, so
the order of members inside them can be seen.  It is left out here by asking that there is no object
inside such a value (`Json.LiteralsBare`): then nothing can be in another order
(`Json.Reordered.eq_of_bare`).
-/
import SchemaMock.Proofs.Names
import SchemaMock.Proofs.Reordering

namespace SchemaMock

/-! ## 1. Documents in another order -/

namespace Json

/-- The same document but for the order of the members of its objects, at any depth. -/
inductive Reordered : Json → Json → Prop
  | null : Reordered .null .null
  | bool (value : Bool) : Reordered (.bool value) (.bool value)
  | num (value : Number) : Reordered (.num value) (.num value)
  | str (value : String) : Reordered (.str value) (.str value)
  | arr {items items' : List Json} (h : List.Forall₂ Reordered items items') :
      Reordered (.arr items) (.arr items')
  | obj {members between members' : List (String × Json)}
      (hkeys : Entries.keys between = Entries.keys members)
      (hvalues : List.Forall₂ Reordered (members.map Prod.snd) (between.map Prod.snd))
      (hperm : between.Perm members') : Reordered (.obj members) (.obj members')

theorem Reordered.members {members members' : List (String × Json)}
    (h : Reordered (.obj members) (.obj members')) :
    Entries.Reordered Reordered members members' := by
  cases h with
  | obj hkeys hvalues hperm => exact .of_keys hkeys hvalues hperm

theorem reordered_obj {members members' : List (String × Json)}
    (h : Entries.Reordered Reordered members members') :
    Reordered (.obj members) (.obj members') := by
  obtain ⟨between, hrelated, hperm⟩ := h
  exact .obj hrelated.keys_eq.symm hrelated.values hperm

/-- What holds of a node whenever it holds of its children holds of every node. -/
theorem childrenInduction {P : Json → Prop} (step : ∀ v, (∀ c ∈ v.children, P c) → P v)
    (v : Json) : P v :=
  step v fun c _hc => childrenInduction step c
termination_by v.depth
decreasing_by exact (inside_of_mem_children _hc).depth_lt

theorem Reordered.refl (v : Json) : v.Reordered v := by
  induction v using childrenInduction with
  | step v ih =>
    cases v with
    | null => exact .null
    | bool value => exact .bool value
    | num value => exact .num value
    | str value => exact .str value
    | arr items => exact .arr (List.forall₂_same.mpr ih)
    | obj members => exact .obj rfl (List.forall₂_same.mpr ih) (.refl members)

/-- Two members the other way round. -/
theorem Reordered.swap {v v' w w' : Json} (hv : v.Reordered v') (hw : w.Reordered w')
    (key key' : String) :
    Reordered (.obj [(key, v), (key', w)]) (.obj [(key', w'), (key, v')]) :=
  reordered_obj ⟨[(key, v'), (key', w')], .cons ⟨rfl, hv⟩ (.cons ⟨rfl, hw⟩ .nil), .swap _ _ _⟩

/-- A node stands somewhere in another one, or is it. -/
inductive Occurs : (inner outer : Json) → Prop
  | here (v : Json) : Occurs v v
  | child {inner v outer : Json} (hmem : v ∈ outer.children) (h : Occurs inner v) :
      Occurs inner outer

/-- There is no object in a node, at any depth. -/
def Bare (v : Json) : Prop := ∀ members, ¬ Occurs (.obj members) v

/-- The keywords whose values are printed as they stand. -/
def literalKeywords : List String := ["const", "example", "enum"]

/-- There is no object in a value that is printed as it stands, whichever object has it for a
member. -/
def LiteralsBare (v : Json) : Prop :=
  ∀ members, Occurs (.obj members) v → ∀ key ∈ literalKeywords, ∀ value,
    (key, value) ∈ members → value.Bare

theorem Bare.child {v c : Json} (h : v.Bare) (hc : c ∈ v.children) : c.Bare :=
  fun members hoccurs => h members (.child hc hoccurs)

theorem LiteralsBare.child {v c : Json} (h : v.LiteralsBare) (hc : c ∈ v.children) :
    c.LiteralsBare :=
  fun members hoccurs => h members (.child hc hoccurs)

theorem Bare.literalsBare {v : Json} (h : v.Bare) : v.LiteralsBare :=
  fun members hoccurs => absurd hoccurs (h members)

@[simp] theorem bare_str (value : String) : Bare (.str value) := by
  rintro members (_ | ⟨hmem, -⟩)
  cases hmem

@[simp] theorem bare_arr {items : List Json} : Bare (.arr items) ↔ ∀ item ∈ items, item.Bare := by
  constructor
  · exact fun h item hitem => h.child hitem
  · rintro h members (_ | ⟨hmem, hoccurs⟩)
    exact h _ hmem members hoccurs

@[simp] theorem literalsBare_str (value : String) : LiteralsBare (.str value) :=
  (bare_str value).literalsBare

@[simp] theorem literalsBare_arr {items : List Json} :
    LiteralsBare (.arr items) ↔ ∀ item ∈ items, item.LiteralsBare := by
  constructor
  · exact fun h item hitem => h.child hitem
  · rintro h members (_ | ⟨hmem, hoccurs⟩)
    exact h _ hmem members hoccurs

@[simp] theorem literalsBare_obj {members : List (String × Json)} :
    LiteralsBare (.obj members) ↔
      (∀ e ∈ members, e.1 ∈ literalKeywords → e.2.Bare) ∧ ∀ e ∈ members, LiteralsBare e.2 := by
  constructor
  · intro h
    exact ⟨fun e he hkey => h members (.here _) e.1 hkey e.2 he,
      fun e he => h.child (List.mem_map_of_mem he)⟩
  · rintro ⟨hself, hmembers⟩ members' hoccurs
    cases hoccurs with
    | here => exact fun key hkey value hvalue => hself (key, value) hvalue hkey
    | child hmem hoccurs =>
      obtain ⟨e, he, rfl⟩ := List.mem_map.mp hmem
      exact hmembers e he members' hoccurs

/-- Without objects there is nothing that could be in another order. -/
theorem Reordered.eq_of_bare {v v' : Json} (h : v.Reordered v') (hbare : v.Bare) : v' = v := by
  induction v using childrenInduction generalizing v' with
  | step v ih =>
    cases h with
    | null | bool | num | str => rfl
    | @arr items items' hitems =>
      have hsame : List.Forall₂ (fun item item' => item = item') items items' := by
        refine (forall₂_mem_left hitems).imp fun item item' hboth => ?_
        exact (ih item hboth.1 hboth.2 (hbare.child hboth.1)).symm
      rw [List.forall₂_eq_eq_eq] at hsame
      rw [hsame]
    | @obj members => exact absurd (.here _) (hbare members)

/-- A document, and the same one in another order that cannot be told apart: no name is repeated,
and what is printed as it stands has nothing in it that could be in another order. -/
structure Exchangeable (v v' : Json) : Prop where
  reordered : v.Reordered v'
  distinct : v.Distinct
  literals : v.LiteralsBare

theorem exchangeable_empty : Exchangeable (.obj []) (.obj []) := by
  exact ⟨.obj rfl .nil (.refl _), ⟨List.nodup_nil, trivial⟩, by simp⟩

/-- A pair of nodes that can be exchanged, the first inside `outer`. -/
def ExchangeableIn (outer v v' : Json) : Prop := Exchangeable v v' ∧ Inside v outer

namespace Exchangeable

variable {v v' : Json}

theorem child {c c' : Json} (h : v.Exchangeable v') (hc : c ∈ v.children) (hcc : c.Reordered c') :
    ExchangeableIn v c c' :=
  have hinside := inside_of_mem_children hc
  ⟨⟨hcc, hinside.distinct h.distinct, h.literals.child hc⟩, hinside⟩

theorem items {items items' : List Json} (h : Exchangeable (.arr items) (.arr items')) :
    List.Forall₂ (ExchangeableIn (.arr items)) items items' := by
  cases h.reordered with
  | arr hitems =>
    exact (forall₂_mem_left hitems).imp fun item item' hboth => h.child hboth.1 hboth.2

theorem members {members members' : Entries Json}
    (h : Exchangeable (.obj members) (.obj members')) :
    Entries.Reordered (ExchangeableIn (.obj members)) members members' := by
  obtain ⟨between, hrelated, hperm⟩ := h.reordered.members
  refine ⟨between, ?_, hperm⟩
  refine (forall₂_mem_left hrelated).imp fun e e' hboth => ?_
  exact ⟨hboth.2.1, h.child (List.mem_map_of_mem hboth.1) hboth.2.2⟩

theorem get?_rel {members members' : Entries Json} (h : Exchangeable (.obj members) (.obj members'))
    (key : String) : Option.Rel (ExchangeableIn (.obj members)) (Entries.get? key members)
      (Entries.get? key members') :=
  h.members.get?_rel h.distinct.1 key

/-- What a segment leads to. -/
theorem child?_rel (h : v.Exchangeable v') (segment : String) :
    Option.Rel (ExchangeableIn v) (v.child? segment) (v'.child? segment) := by
  cases h.reordered with
  | null | bool | num | str => exact .none
  | arr =>
    rw [child?, child?]
    cases Pointer.position? segment with
    | none => exact .none
    | some position => exact forall₂_getElem? h.items position
  | obj => exact h.get?_rel segment

/-- **What stands at an address can be exchanged with what stands there in another order.** -/
theorem at?_rel (h : v.Exchangeable v') (segments : List String) :
    Option.Rel Exchangeable (v.at? segments) (v'.at? segments) := by
  induction segments generalizing v v' with
  | nil => exact .some h
  | cons segment rest ih =>
    rw [at?, at?]
    exact rel_bind (h.child?_rel segment) fun c c' hboth => ih hboth.1

end Exchangeable

end Json

namespace DocumentStore

/-- Stores with the same keys, and documents that can be exchanged under each of them. -/
def Exchangeable (store store' : DocumentStore) : Prop :=
  ∀ key, Option.Rel Json.Exchangeable (store.get? key) (store'.get? key)

theorem Exchangeable.distinct {store store' : DocumentStore} (h : store.Exchangeable store') :
    store.Distinct := by
  intro key document hget
  rcases rel_cases (h key) with ⟨hnone, -⟩ | ⟨first, second, hsome, -, hdocument⟩
  · rw [hnone] at hget
    cases hget
  · rw [hsome] at hget
    cases hget
    exact hdocument.distinct

theorem Exchangeable.node {store store' : DocumentStore} (h : store.Exchangeable store')
    (target : Target) : (store.node target).Exchangeable (store'.node target) := by
  have hat : Option.Rel Json.Exchangeable (store.at? target.documentKey target.segments)
      (store'.at? target.documentKey target.segments) := by
    exact rel_bind (h target.documentKey) fun document document' hdocument =>
      hdocument.at?_rel target.segments
  rw [DocumentStore.node, DocumentStore.node]
  generalize store.at? target.documentKey target.segments = node at hat ⊢
  generalize store'.at? target.documentKey target.segments = node' at hat ⊢
  cases hat with
  | none => exact Json.exchangeable_empty
  | some hnode => exact hnode

end DocumentStore

/-! ## 2. Keywords in another order -/

/-- Keywords that say the same, but for the order of what they say. -/
structure Keywords.Alike (keywords keywords' : Keywords) : Prop where
  get?_rel : ∀ keyword, Option.Rel Json.Reordered (Entries.get? keyword keywords)
    (Entries.get? keyword keywords')
  literal_eq : ∀ keyword ∈ Json.literalKeywords,
    Entries.get? keyword keywords' = Entries.get? keyword keywords

theorem Keywords.alike_nil : Keywords.Alike [] [] := ⟨fun _ => .none, fun _ _ => rfl⟩

theorem Json.Exchangeable.alike {keywords keywords' : Keywords}
    (h : Json.Exchangeable (.obj keywords) (.obj keywords')) :
    Keywords.Alike keywords keywords' := by
  refine ⟨fun keyword => ?_, fun keyword hliteral => ?_⟩
  · exact rel_imp (h.get?_rel keyword) fun _ _ hboth => hboth.1.reordered
  · rcases rel_cases (h.get?_rel keyword) with
      ⟨hnone, hnone'⟩ | ⟨value, value', hvalue, hvalue', hboth⟩
    · rw [hnone, hnone']
    · have hbare : value.Bare :=
        h.literals keywords (.here _) keyword hliteral value (Entries.mem_of_get? hvalue)
      rw [hvalue, hvalue', hboth.1.reordered.eq_of_bare hbare]

namespace Json.Reordered

variable {v v' : Json}

theorem text?_eq (h : v.Reordered v') : v'.text? = v.text? := by
  cases h with
  | null | bool | num | str | arr | obj => rfl

theorem bool?_eq (h : v.Reordered v') : v'.bool? = v.bool? := by
  cases h with
  | null | bool | num | str | arr | obj => rfl

theorem word?_eq (h : v.Reordered v') : v'.word? = v.word? := by
  cases h with
  | null | bool | num | str | arr | obj => rfl

/-- The texts among the items of an array. -/
theorem map_text?_eq {items items' : List Json} (h : List.Forall₂ Reordered items items') :
    items'.map Json.text? = items.map Json.text? := by
  induction h with
  | nil => rfl
  | cons hfirst _ ih => rw [List.map_cons, List.map_cons, hfirst.text?_eq, ih]

end Json.Reordered

namespace Keywords.Alike

variable {keywords keywords' : Keywords} (h : keywords.Alike keywords')

include h

theorem get?_cases (keyword : String) :
    (Entries.get? keyword keywords = none ∧ Entries.get? keyword keywords' = none) ∨
      ∃ value value', Entries.get? keyword keywords = some value ∧
        Entries.get? keyword keywords' = some value' ∧ value.Reordered value' :=
  rel_cases (h.get?_rel keyword)

/-- What is read from the value of a keyword. -/
theorem bind_eq {α : Type} {f : Json → Option α}
    (hf : ∀ {v v' : Json}, v.Reordered v' → f v' = f v) (keyword : String) :
    (Entries.get? keyword keywords').bind f = (Entries.get? keyword keywords).bind f := by
  rcases h.get?_cases keyword with ⟨hnone, hnone'⟩ | ⟨value, value', hvalue, hvalue', hsame⟩
  · rw [hnone, hnone']
  · rw [hvalue, hvalue', Option.bind_some, Option.bind_some, hf hsame]

theorem reference?_eq : reference? keywords' = reference? keywords :=
  h.bind_eq Json.Reordered.text?_eq "$ref"

theorem format?_eq : format? keywords' = format? keywords :=
  h.bind_eq Json.Reordered.text?_eq "format"

theorem enumeration?_eq : enumeration? keywords' = enumeration? keywords := by
  rw [enumeration?, enumeration?, h.literal_eq "enum" (by decide)]

theorem type?_eq : type? keywords' = type? keywords := by
  have hlisted : ∀ types, listedTypes types
      = (types.map Json.text?).filterMap fun text => text.bind InstanceType.ofName? := by
    intro types
    rw [List.filterMap_map]
    rfl
  rcases h.get?_cases "type" with ⟨hnone, hnone'⟩ | ⟨value, value', hvalue, hvalue', hsame⟩
  · rw [type?, type?, hnone, hnone']
  · rw [type?, type?, hvalue, hvalue']
    cases hsame with
    | null | bool | num | str | obj => rfl
    | arr htypes => simp only [hlisted, Json.Reordered.map_text?_eq htypes]

theorem nullable_eq : nullable keywords' = nullable keywords := by
  have hlisted : ∀ types : List Json,
      (decide (1 < types.length) && types.any fun t => t.text? == some "null")
        = (decide (1 < (types.map Json.text?).length) &&
            (types.map Json.text?).any fun text => text == some "null") := by
    intro types
    rw [List.length_map, List.any_map]
    rfl
  rw [nullable, nullable, h.bind_eq Json.Reordered.bool?_eq "nullable"]
  rcases h.get?_cases "type" with ⟨hnone, hnone'⟩ | ⟨value, value', hvalue, hvalue', hsame⟩
  · rw [hnone, hnone']
  · rw [hvalue, hvalue']
    cases hsame with
    | null | bool | num | str | obj => rfl
    | arr htypes => simp only [hlisted, Json.Reordered.map_text?_eq htypes]

theorem required_eq : required keywords' = required keywords := by
  have hlisted : ∀ names : List Json,
      names.filterMap Json.text? = (names.map Json.text?).filterMap id := by
    intro names
    rw [List.filterMap_map]
    rfl
  rcases h.get?_cases "required" with ⟨hnone, hnone'⟩ | ⟨value, value', hvalue, hvalue', hsame⟩
  · rw [required, required, hnone, hnone']
  · rw [required, required, hvalue, hvalue']
    cases hsame with
    | null | bool | num | str | obj => rfl
    | arr hnames => simp only [hlisted, Json.Reordered.map_text?_eq hnames]

theorem combinator?_eq : combinator? keywords' = combinator? keywords := by
  have hmembers : ∀ c, (members? keywords' c).isSome = (members? keywords c).isSome := by
    intro c
    rcases h.get?_cases c.keyword with ⟨hnone, hnone'⟩ | ⟨value, value', hvalue, hvalue', hsame⟩
    · rw [members?, members?, hnone, hnone']
    · rw [members?, members?, hvalue, hvalue']
      cases hsame with
      | null | bool | num | str | arr | obj => rfl
  simp only [combinator?, hmembers]

theorem kind_eq : Schema.kind keywords' = Schema.kind keywords := by
  rw [Schema.kind, Schema.kind, h.literal_eq "const" (by decide), h.combinator?_eq,
    h.enumeration?_eq, h.type?_eq, h.format?_eq]

theorem itemBounds_eq (settings : Settings) :
    itemBounds settings keywords' = itemBounds settings keywords := by
  simp only [itemBounds, h.bind_eq Json.Reordered.word?_eq]

theorem bound?_eq (label keyword : String) :
    PlainSchema.bound? keywords' label keyword = PlainSchema.bound? keywords label keyword := by
  rcases h.get?_cases keyword with ⟨hnone, hnone'⟩ | ⟨value, value', hvalue, hvalue', hsame⟩
  · rw [PlainSchema.bound?, PlainSchema.bound?, hnone, hnone']
  · rw [PlainSchema.bound?, PlainSchema.bound?, hvalue, hvalue']
    cases hsame with
    | null | bool | num | str | arr | obj => rfl

/-- The expression of a schema without parts. -/
theorem expression_eq (settings : Settings) :
    PlainSchema.expression settings keywords' = PlainSchema.expression settings keywords := by
  have hbounds : ∀ min max,
      PlainSchema.bounds? keywords' min max = PlainSchema.bounds? keywords min max := by
    intro min max
    simp only [PlainSchema.bounds?, h.bound?_eq]
  have htext : PlainSchema.text keywords' = PlainSchema.text keywords := by
    rw [PlainSchema.text, PlainSchema.text, h.bind_eq Json.Reordered.text?_eq, hbounds]
  have htype : PlainSchema.ofType keywords' = PlainSchema.ofType keywords := by
    funext type
    simp only [PlainSchema.ofType, hbounds, htext]
  simp only [PlainSchema.expression, h.type?_eq, h.format?_eq, htype]

end Keywords.Alike

/-! ## 3. Schemas in another order -/

namespace Schema

/-- The same schema but for the order of properties, at any depth, and of what keywords say. -/
inductive Reordered : Schema → Schema → Prop
  | reference (target : String) : Reordered (.reference target) (.reference target)
  | plain {keywords keywords' : List (String × Json)}
      (hkeywords : Keywords.Alike keywords keywords') :
      Reordered (.plain keywords) (.plain keywords')
  | array {keywords keywords' : List (String × Json)} {items items' : Schema}
      (hkeywords : Keywords.Alike keywords keywords') (hitems : Reordered items items') :
      Reordered (.array keywords items) (.array keywords' items')
  | object {keywords keywords' : List (String × Json)}
      {properties between properties' : List (String × Schema)}
      (hkeywords : Keywords.Alike keywords keywords')
      (hkeys : Entries.keys between = Entries.keys properties)
      (hvalues : List.Forall₂ Reordered (properties.map Prod.snd) (between.map Prod.snd))
      (hperm : between.Perm properties') :
      Reordered (.object keywords properties) (.object keywords' properties')
  | combined {keywords keywords' : List (String × Json)} {combinator : Combinator}
      {properties between properties' : List (String × Schema)} {members members' : List Schema}
      (hkeywords : Keywords.Alike keywords keywords')
      (hkeys : Entries.keys between = Entries.keys properties)
      (hvalues : List.Forall₂ Reordered (properties.map Prod.snd) (between.map Prod.snd))
      (hperm : between.Perm properties') (hmembers : List.Forall₂ Reordered members members') :
      Reordered (.combined keywords combinator properties members)
        (.combined keywords' combinator properties' members')

theorem reordered_empty : Reordered .empty .empty :=
  .object Keywords.alike_nil rfl .nil (.refl _)

theorem Reordered.keywords {schema schema' : Schema} (h : schema.Reordered schema') :
    Keywords.Alike schema.keywords schema'.keywords := by
  cases h with
  | reference => exact Keywords.alike_nil
  | plain hkeywords => exact hkeywords
  | array hkeywords => exact hkeywords
  | object hkeywords => exact hkeywords
  | combined hkeywords => exact hkeywords

/-- Nodes in another order that stand inside something hold schemas in another order. -/
def InsideReordered (outer : Json) : Prop :=
  ∀ inner inner', Json.ExchangeableIn outer inner inner' → Reordered (ofJson inner) (ofJson inner')

section OfJson

variable {keywords keywords' : Keywords} (h : Json.Exchangeable (.obj keywords) (.obj keywords'))
  (hinside : InsideReordered (.obj keywords))

include h hinside

theorem reordered_propertiesIn :
    Entries.Reordered Reordered (propertiesIn keywords) (propertiesIn keywords') := by
  rw [propertiesIn_eq, propertiesIn_eq]
  rcases rel_cases (h.get?_rel "properties") with
    ⟨hnone, hnone'⟩ | ⟨table, table', htable, htable', hsame, hin⟩
  · rw [hnone, hnone']
    exact .of_related .nil
  · rw [htable, htable', Option.map_some, Option.map_some, Option.getD_some, Option.getD_some]
    have hreordered := hsame.reordered
    cases hreordered with
    | null | bool | num | str | arr => exact .of_related .nil
    | obj =>
      rw [ofTable, ofTable, ofMembers_eq, ofMembers_eq]
      exact hsame.members.map fun e e' _ hboth =>
        hinside e.2 e'.2 ⟨hboth.1, hboth.2.trans hin⟩

theorem reordered_itemsIn : Reordered (itemsIn keywords) (itemsIn keywords') := by
  rw [itemsIn_eq, itemsIn_eq]
  rcases rel_cases (h.get?_rel "items") with
    ⟨hnone, hnone'⟩ | ⟨items, items', hitems, hitems', hsame⟩
  · rw [hnone, hnone']
    exact reordered_empty
  · rw [hitems, hitems']
    exact hinside items items' hsame

theorem reordered_membersIn (keyword : String) :
    List.Forall₂ Reordered (membersIn keyword keywords) (membersIn keyword keywords') := by
  rw [membersIn_eq, membersIn_eq]
  rcases rel_cases (h.get?_rel keyword) with
    ⟨hnone, hnone'⟩ | ⟨list, list', hlist, hlist', hsame, hin⟩
  · rw [hnone, hnone']
    exact .nil
  · rw [hlist, hlist', Option.map_some, Option.map_some, Option.getD_some, Option.getD_some]
    have hreordered := hsame.reordered
    cases hreordered with
    | null | bool | num | str | obj => exact .nil
    | arr =>
      rw [ofArray, ofArray, ofItems_eq, ofItems_eq, List.forall₂_map_left_iff,
        List.forall₂_map_right_iff]
      exact hsame.items.imp fun item item' hboth =>
        hinside item item' ⟨hboth.1, hboth.2.trans hin⟩

theorem reordered_ofKeywords : Reordered (ofJson (.obj keywords)) (ofJson (.obj keywords')) := by
  have halike := h.alike
  obtain ⟨between, hrelated, hperm⟩ := reordered_propertiesIn h hinside
  rw [ofJson, ofJson, halike.reference?_eq, halike.kind_eq]
  cases Keywords.reference? keywords with
  | some target => exact .reference target
  | none =>
    cases kind keywords with
    | combined combinator =>
      exact .combined halike hrelated.keys_eq.symm hrelated.values hperm
        (reordered_membersIn h hinside combinator.keyword)
    | array => exact .array halike (reordered_itemsIn h hinside)
    | object => exact .object halike hrelated.keys_eq.symm hrelated.values hperm
    | plain => exact .plain halike

end OfJson

/-- **A node holds the same schema in whatever order its members are written down.** -/
theorem reordered_ofJson {v v' : Json} (h : v.Exchangeable v') :
    Reordered (ofJson v) (ofJson v') := by
  have hinside : InsideReordered v := fun inner inner' hboth => reordered_ofJson hboth.1
  have hreordered := h.reordered
  cases hreordered with
  | null | bool | num | str | arr =>
    simp only [ofJson]
    exact reordered_empty
  | obj => exact reordered_ofKeywords h hinside
termination_by v.depth
decreasing_by exact hboth.2.depth_lt

end Schema

theorem DocumentStore.Exchangeable.schemaAt {store store' : DocumentStore}
    (h : store.Exchangeable store') (target : Target) :
    (store.schemaAt target).Reordered (store'.schemaAt target) :=
  Schema.reordered_ofJson (h.node target)

end SchemaMock
