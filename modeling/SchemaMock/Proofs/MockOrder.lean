/-
# Mocks in another order

Two mocks can be the same but for the order of the properties of their objects, at any depth, and of
their imports (`Mock.Reordered`).  What is put together of such mocks is the same in that sense.

Order could matter when members that hold all at once are merged, since of properties with one name
the first wins.  But the properties of one member have different names, and the order of members is
told by an array; so what is left out depends on names alone (`Merge.foldl_addProperty_eq`).
-/
import SchemaMock.Proofs.Imports
import SchemaMock.Proofs.Reordering

namespace SchemaMock

/-! ## 1. Mocks in another order -/

namespace Expression

/-- The same expression but for the order of the properties of its objects, at any depth. -/
inductive Reordered : Expression → Expression → Prop
  | primitive (text : String) : Reordered (.primitive text) (.primitive text)
  | null : Reordered .null .null
  | undefined : Reordered .undefined .undefined
  | oneOf {choices choices' : List Expression} (h : List.Forall₂ Reordered choices choices') :
      Reordered (.oneOf choices) (.oneOf choices')
  | object {properties between properties' : List (String × Expression)}
      (hkeys : Entries.keys between = Entries.keys properties)
      (hvalues : List.Forall₂ Reordered (properties.map Prod.snd) (between.map Prod.snd))
      (hperm : between.Perm properties') : Reordered (.object properties) (.object properties')
  | array {item item' : Expression} (min max : UInt64) (h : Reordered item item') :
      Reordered (.array item min max) (.array item' min max)

theorem Reordered.properties {properties properties' : Entries Expression}
    (h : Reordered (.object properties) (.object properties')) :
    Entries.Reordered Reordered properties properties' := by
  cases h with
  | object hkeys hvalues hperm => exact .of_keys hkeys hvalues hperm

theorem reordered_object {properties properties' : Entries Expression}
    (h : Entries.Reordered Reordered properties properties') :
    Reordered (.object properties) (.object properties') := by
  obtain ⟨between, hrelated, hperm⟩ := h
  exact .object hrelated.keys_eq.symm hrelated.values hperm

theorem Reordered.orNull {e e' : Expression} (h : Reordered e e') (nullable : Bool) :
    Reordered (e.orNull nullable) (e'.orNull nullable) := by
  rw [Expression.orNull, Expression.orNull]
  split
  · exact .oneOf (.cons h (.cons .null .nil))
  · exact h

theorem Reordered.orUndefined {e e' : Expression} (h : Reordered e e') (isOptional : Bool) :
    Reordered (e.orUndefined isOptional) (e'.orUndefined isOptional) := by
  rw [Expression.orUndefined, Expression.orUndefined]
  split
  · exact .oneOf (.cons h (.cons .undefined .nil))
  · exact h

/-- What can be taken out of an expression. -/
theorem Reordered.properties?_rel {e e' : Expression} (h : Reordered e e') :
    Option.Rel (Entries.Reordered Reordered) e.properties? e'.properties? := by
  cases h with
  | primitive | null | undefined | array => exact .none
  | object hkeys hvalues hperm => exact .some (.of_keys hkeys hvalues hperm)
  | oneOf hchoices =>
    cases hchoices with
    | nil => exact .none
    | cons hfirst hrest =>
      cases hrest with
      | nil => cases hfirst <;> exact .none
      | cons hsecond hrest =>
        cases hrest with
        | nil =>
          cases hsecond with
          | null =>
            cases hfirst with
            | object hkeys hvalues hperm =>
              exact .some (.of_keys hkeys hvalues hperm)
            | primitive | null | undefined | oneOf | array => exact .none
          | primitive | undefined | oneOf | array | object => cases hfirst <;> exact .none
        | cons => cases hfirst <;> cases hsecond <;> exact .none

theorem Reordered.behind {e e' : Expression} (h : Reordered e e')
    {own own' : Entries Expression} (hown : Entries.Reordered Reordered own own') :
    Reordered (e.behind own) (e'.behind own') := by
  cases h with
  | primitive text => exact .primitive text
  | null => exact .null
  | undefined => exact .undefined
  | oneOf hchoices => exact .oneOf hchoices
  | array min max hitem => exact .array min max hitem
  | object hkeys hvalues hperm =>
    exact reordered_object (hown.append (.of_keys hkeys hvalues hperm))

theorem reordered_chosen {own own' : Entries Expression}
    (hown : Entries.Reordered Reordered own own') {choices choices' : List Expression}
    (h : List.Forall₂ Reordered choices choices') :
    Reordered (chosen own choices) (chosen own' choices') := by
  cases h with
  | nil => exact reordered_object hown
  | cons hfirst hrest =>
    cases hrest with
    | nil => exact hfirst
    | cons hsecond hrest => exact .oneOf (.cons hfirst (.cons hsecond hrest))

/-- A text, or nothing at all, has no properties. -/
theorem reordered_plainSchema (settings : Settings) (keywords : Keywords) :
    Reordered (PlainSchema.expression settings keywords)
      (PlainSchema.expression settings keywords) := by
  rcases PlainSchema.expression_cases settings keywords with h | ⟨text, h, -⟩
  · rw [h]
    exact .null
  · rw [h]
    exact .primitive text

end Expression

/-- Lists with the same members. -/
def SameMembers {α : Type} (as bs : List α) : Prop := ∀ a, a ∈ as ↔ a ∈ bs

theorem SameMembers.refl {α : Type} (as : List α) : SameMembers as as := fun _ => Iff.rfl

theorem SameMembers.append {α : Type} {as bs cs ds : List α} (h : SameMembers as bs)
    (h' : SameMembers cs ds) : SameMembers (as ++ cs) (bs ++ ds) := by
  intro a
  rw [List.mem_append, List.mem_append, h a, h' a]

theorem SameMembers.contains_eq {as bs : List String} (h : SameMembers as bs) (a : String) :
    as.contains a = bs.contains a := by
  rw [Bool.eq_iff_iff, List.contains_iff_mem, List.contains_iff_mem]
  exact h a

theorem sameMembers_withImports {base base' news news' : List Import} (h : SameMembers base base')
    (h' : SameMembers news news') :
    SameMembers (withImports base news) (withImports base' news') := by
  intro i
  rw [mem_withImports, mem_withImports, h i, h' i]

/-- The same mock but for the order of properties and of imports. -/
structure Mock.Reordered (mock mock' : Mock) : Prop where
  expression : mock.expression.Reordered mock'.expression
  imports : SameMembers mock.imports mock'.imports
  name_eq : mock'.name = mock.name
  overridden_eq : mock'.overridden = mock.overridden
  type_eq : mock'.type = mock.type

/-! ## 2. Parts in another order -/

/-- The imports of mocks that are the same but for the order in them. -/
theorem sameMembers_importsBehind {base base' : List Import} {mocks mocks' : List Mock}
    (hbase : SameMembers base base') (h : List.Forall₂ Mock.Reordered mocks mocks') :
    SameMembers (importsBehind base mocks) (importsBehind base' mocks') := by
  induction h generalizing base base' with
  | nil => exact hbase
  | cons hfirst _ ih => exact ih (sameMembers_withImports hbase hfirst.imports)

theorem reordered_variants {own own' : Entries Expression}
    (hown : Entries.Reordered Expression.Reordered own own') {mocks mocks' : List Mock}
    (h : List.Forall₂ Mock.Reordered mocks mocks') :
    (Expression.chosen own (mocks.map fun mock => mock.expression.behind own)).Reordered
      (Expression.chosen own' (mocks'.map fun mock => mock.expression.behind own')) := by
  refine Expression.reordered_chosen hown ?_
  rw [List.forall₂_map_left_iff, List.forall₂_map_right_iff]
  exact h.imp fun mock mock' hmock => hmock.expression.behind hown

section Properties

variable {mocks mocks' : Entries Mock} (h : Entries.Reordered Mock.Reordered mocks mocks')

include h

theorem reordered_ownProperties (settings : Settings) (required : List String) :
    Entries.Reordered Expression.Reordered (ownProperties settings required mocks)
      (ownProperties settings required mocks') := by
  refine h.map fun e e' hkey hmock => ?_
  rw [hkey, hmock.overridden_eq]
  exact hmock.expression.orUndefined _

theorem sameMembers_importsOf :
    SameMembers (importsOf (mocks.map Prod.snd)) (importsOf (mocks'.map Prod.snd)) := by
  obtain ⟨between, hrelated, hperm⟩ := h
  have hvalues : ∀ mock, mock ∈ between.map Prod.snd ↔ mock ∈ mocks'.map Prod.snd :=
    fun mock => (hperm.map Prod.snd).mem_iff
  intro i
  calc i ∈ importsOf (mocks.map Prod.snd)
      ↔ i ∈ importsOf (between.map Prod.snd) :=
        sameMembers_importsBehind (.refl []) hrelated.values i
    _ ↔ i ∈ [] ∨ ∃ mock ∈ between.map Prod.snd, i ∈ mock.imports := mem_importsBehind
    _ ↔ i ∈ [] ∨ ∃ mock ∈ mocks'.map Prod.snd, i ∈ mock.imports := by simp only [hvalues]
    _ ↔ i ∈ importsOf (mocks'.map Prod.snd) := mem_importsBehind.symm

end Properties

/-! ## 3. Merges in another order -/

namespace Merge

/-- Properties with different names are merged all at once: those whose names have not been emitted
are added. -/
theorem foldl_addProperty_eq {properties : Entries Expression}
    (h : (Entries.keys properties).Nodup) (merge : Merge) :
    properties.foldl addProperty merge =
      { merge with
        emitted := merge.emitted ++
          Entries.keys (properties.filter fun e => !merge.emitted.contains e.1)
        properties := merge.properties ++
          properties.filter fun e => !merge.emitted.contains e.1 } := by
  induction properties generalizing merge with
  | nil => simp [Entries.keys]
  | cons e rest ih =>
    obtain ⟨hnew, hrest⟩ : e.1 ∉ Entries.keys rest ∧ (Entries.keys rest).Nodup :=
      List.nodup_cons.mp h
    rw [List.foldl_cons, ih hrest, addProperty]
    by_cases hemitted : merge.emitted.contains e.1 = true
    · rw [if_pos hemitted, List.filter_cons_of_neg (by simpa using hemitted)]
    · -- the name of `e` comes not again, so it need not be left out of the rest
      have hfilter : rest.filter (fun e' => !(merge.emitted ++ [e.1]).contains e'.1)
          = rest.filter fun e' => !merge.emitted.contains e'.1 := by
        refine List.filter_congr fun e' he' => ?_
        have hne : e'.1 ≠ e.1 := fun heq => hnew (heq ▸ List.mem_map_of_mem he')
        simp [hne]
      rw [if_neg hemitted, List.filter_cons_of_pos (by simpa using hemitted), hfilter]
      simp [Entries.keys]

/-- The same merge but for the order of what has been merged. -/
structure Reordered (merge merge' : Merge) : Prop where
  emitted : SameMembers merge.emitted merge'.emitted
  properties : Entries.Reordered Expression.Reordered merge.properties merge'.properties
  other : Option.Rel Expression.Reordered merge.other merge'.other
  imports : SameMembers merge.imports merge'.imports

/-- **One member more**, in another order too: what is left out of it is told by names. -/
theorem Reordered.addMember {merge merge' : Merge} (h : merge.Reordered merge')
    {mock mock' : Mock} (hmock : mock.Reordered mock')
    (hnames : ∀ properties, mock.expression.properties? = some properties →
      (Entries.keys properties).Nodup) :
    (merge.addMember mock).Reordered (merge'.addMember mock') := by
  have himports := sameMembers_withImports h.imports hmock.imports
  rw [Merge.addMember, Merge.addMember]
  rcases rel_cases hmock.expression.properties?_rel with
    ⟨hnone, hnone'⟩ | ⟨properties, properties', hsome, hsome', hproperties⟩
  · rw [hnone, hnone']
    exact ⟨h.emitted, h.properties, .some hmock.expression, himports⟩
  · have hnodup := hnames properties hsome
    have hnodup' := hproperties.keys_perm.nodup_iff.mp hnodup
    have hadded := hproperties.filter (p := fun key => !merge.emitted.contains key)
      (q := fun key => !merge'.emitted.contains key) fun key => by rw [h.emitted.contains_eq]
    simp only [hsome, hsome', foldl_addProperty_eq hnodup, foldl_addProperty_eq hnodup']
    refine ⟨h.emitted.append fun key => hadded.keys_perm.mem_iff, h.properties.append hadded,
      h.other, himports⟩

theorem Reordered.expression {merge merge' : Merge} (h : merge.Reordered merge') :
    merge.expression.Reordered merge'.expression := by
  obtain ⟨-, hproperties, hother, -⟩ := h
  have hnil := hproperties.eq_nil_iff
  rw [Merge.expression, Merge.expression]
  rcases rel_cases hother with ⟨hnone, hnone'⟩ | ⟨e, e', hsome, hsome', he⟩
  · rw [hnone, hnone']
    exact Expression.reordered_object hproperties
  · rw [hsome, hsome']
    cases hlist : merge.properties with
    | nil =>
      rw [hnil.mp hlist]
      exact he
    | cons first rest =>
      cases hlist' : merge'.properties with
      | nil => rw [hnil.mpr hlist'] at hlist; cases hlist
      | cons first' rest' =>
        rw [hlist, hlist'] at hproperties
        exact Expression.reordered_object hproperties

end Merge

end SchemaMock
