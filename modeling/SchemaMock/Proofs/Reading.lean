/-
# What is read names nothing twice

Documents come from texts in either of two formats.  Both readers put the members of an object into
a table one after another, so a name that comes again takes the place of the earlier one, or they
refuse it; no object that they give names a member twice.  This is kept by every turn of a loading,
and so it holds of all documents that a resolution can see.
-/
import SchemaMock.Loading
import SchemaMock.Proofs.Names

namespace SchemaMock

/-! ## 1. Results and documents -/

section Except

variable {ε ε' α β : Type}

theorem ok_of_bind {x : Except ε α} {f : α → Except ε β} {b : β} (h : x >>= f = .ok b) :
    ∃ a, x = .ok a ∧ f a = .ok b := by
  cases x with
  | error e => cases h
  | ok a => exact ⟨a, rfl, h⟩

theorem ok_of_mapError {x : Except ε α} {g : ε → ε'} {a : α} (h : x.mapError g = .ok a) :
    x = .ok a := by
  cases x with
  | error e => cases h
  | ok b =>
    cases h
    rfl

end Except

namespace Json

theorem distinctItems_of_forall : ∀ {items : List Json},
    (∀ item ∈ items, item.Distinct) → DistinctItems items
  | [], _ => trivial
  | item :: _, h => ⟨h item List.mem_cons_self,
      distinctItems_of_forall fun other hother => h other (List.mem_cons_of_mem _ hother)⟩

theorem distinct_arr {items : List Json} (h : ∀ item ∈ items, item.Distinct) :
    (Json.arr items).Distinct :=
  distinctItems_of_forall h

theorem distinct_empty : (Json.obj []).Distinct := ⟨List.nodup_nil, trivial⟩

theorem distinctMembers_put {key : String} {value : Json} (hvalue : value.Distinct) :
    ∀ {members : Entries Json}, DistinctMembers members →
      DistinctMembers (Entries.put key value members)
  | [], _ => ⟨hvalue, trivial⟩
  | (name, other) :: rest, h => by
    rw [Entries.put]
    split
    · exact ⟨hvalue, h.2⟩
    · exact ⟨h.1, distinctMembers_put hvalue h.2⟩

/-- A member that is put into an object takes the place of an earlier one of its name. -/
theorem Distinct.put {members : Entries Json} (h : (Json.obj members).Distinct) (key : String)
    {value : Json} (hvalue : value.Distinct) :
    (Json.obj (Entries.put key value members)).Distinct :=
  ⟨Entries.nodup_keys_put h.1, distinctMembers_put hvalue h.2⟩

end Json

/-! ## 2. Texts of the narrower format -/

namespace Json.Reader

/-- Whatever is read names nothing twice. -/
def ReadsDistinct (x : Except ReadFault (Json × List Char)) : Prop :=
  ∀ value rest, x = .ok (value, rest) → value.Distinct

theorem readsDistinct_ok {value : Json} (h : value.Distinct) (rest : List Char) :
    ReadsDistinct (.ok (value, rest)) := by
  rintro _ _ ⟨⟩
  exact h

theorem readsDistinct_error (fault : ReadFault) : ReadsDistinct (.error fault) := nofun

theorem readsDistinct_bind {α : Type} {x : Except ReadFault α}
    {f : α → Except ReadFault (Json × List Char)} (h : ∀ a, x = .ok a → ReadsDistinct (f a)) :
    ReadsDistinct (x >>= f) := by
  cases x with
  | error fault => exact readsDistinct_error fault
  | ok a => exact h a rfl

theorem readScalar_distinct (lenient : Bool) (cs : List Char) :
    ReadsDistinct (readScalar lenient cs) := by
  unfold readScalar
  split
  · exact readsDistinct_error _
  · exact readsDistinct_bind fun _ _ => readsDistinct_ok (by trivial) _
  · exact readsDistinct_bind fun _ _ => readsDistinct_ok (by trivial) _
  · exact readsDistinct_bind fun _ _ => readsDistinct_ok (by trivial) _
  · exact readsDistinct_bind fun _ _ => readsDistinct_ok (by trivial) _
  · exact readsDistinct_bind fun _ _ => readsDistinct_ok (by trivial) _
  · split
    · exact readsDistinct_bind fun _ _ => readsDistinct_ok (by trivial) _
    · exact readsDistinct_error _

/-- What the parts of the reader keep with `fuel` left: what has been collected names nothing twice,
and so does what is read in the end. -/
structure KeepsDistinct (fuel : Nat) : Prop where
  value : ∀ depth expected cs, ReadsDistinct (readValue fuel depth expected cs)
  items : ∀ depth expected first done cs, (∀ item ∈ done, item.Distinct) →
    ReadsDistinct (readItems fuel depth expected first done cs)
  members : ∀ depth expected first done cs, (Json.obj done).Distinct →
    ReadsDistinct (readMembers fuel depth expected first done cs)
  record : ∀ depth fields first done cs, (Json.obj done).Distinct →
    ReadsDistinct (readRecord fuel depth fields first done cs)
  fields : ∀ depth fields first done cs, (Json.obj done).Distinct →
    ReadsDistinct (readFields fuel depth fields first done cs)

theorem keepsDistinct_zero : KeepsDistinct 0 := by
  constructor
  all_goals intros
  case value => rw [readValue]; exact readsDistinct_error _
  case items => rw [readItems]; exact readsDistinct_error _
  case members => rw [readMembers]; exact readsDistinct_error _
  case record => rw [readRecord]; exact readsDistinct_error _
  case fields => rw [readFields]; exact readsDistinct_error _

theorem KeepsDistinct.succ {fuel : Nat} (h : KeepsDistinct fuel) : KeepsDistinct (fuel + 1) := by
  constructor
  case value =>
    intro depth expected cs
    rw [readValue]
    split
    · split
      · split
        · exact readsDistinct_error _
        · exact h.items _ _ _ _ _ (List.forall_mem_nil _)
      · exact h.items _ _ _ _ _ (List.forall_mem_nil _)
      · split
        · exact readsDistinct_error _
        · exact h.fields _ _ _ _ _ distinct_empty
      · exact readsDistinct_error _
    · split
      · split
        · exact readsDistinct_error _
        · exact h.members _ _ _ _ _ distinct_empty
      · exact h.members _ _ _ _ _ distinct_empty
      · split
        · exact readsDistinct_error _
        · exact h.members _ _ _ _ _ distinct_empty
      · split
        · exact readsDistinct_error _
        · exact h.record _ _ _ _ _ distinct_empty
      · exact readsDistinct_error _
    · refine readsDistinct_bind fun scalar hscalar => ?_
      obtain ⟨value, rest⟩ := scalar
      dsimp only
      split
      · exact readsDistinct_ok (readScalar_distinct _ _ _ _ hscalar) _
      · exact readsDistinct_error _
  case items =>
    intro depth expected first done cs hdone
    rw [readItems]
    refine readsDistinct_bind fun next _ => ?_
    cases next with
    | none =>
      refine readsDistinct_bind fun _ _ => readsDistinct_ok (distinct_arr fun item hitem => ?_) _
      exact hdone item (List.mem_reverse.mp hitem)
    | some cs =>
      refine readsDistinct_bind fun read hread => ?_
      refine h.items _ _ _ _ _ ?_
      intro item hitem
      rcases List.mem_cons.mp hitem with rfl | hitem
      · exact h.value _ _ _ _ _ hread
      · exact hdone item hitem
  case members =>
    intro depth expected first done cs hdone
    rw [readMembers]
    refine readsDistinct_bind fun next _ => ?_
    cases next with
    | none => exact readsDistinct_bind fun _ _ => readsDistinct_ok hdone _
    | some cs =>
      refine readsDistinct_bind fun name _ => readsDistinct_bind fun colon _ => ?_
      refine readsDistinct_bind fun read hread => ?_
      exact h.members _ _ _ _ _ (hdone.put _ (h.value _ _ _ _ _ hread))
  case record =>
    intro depth fields first done cs hdone
    rw [readRecord]
    refine readsDistinct_bind fun next _ => ?_
    cases next with
    | none => exact readsDistinct_bind fun _ _ => readsDistinct_ok hdone _
    | some cs =>
      refine readsDistinct_bind fun name _ => ?_
      obtain ⟨name, rest⟩ := name
      dsimp only
      split
      · refine readsDistinct_bind fun colon _ => readsDistinct_bind fun read _ => ?_
        exact h.record _ _ _ _ _ hdone
      · split
        · exact readsDistinct_error _
        · refine readsDistinct_bind fun colon _ => readsDistinct_bind fun read hread => ?_
          exact h.record _ _ _ _ _ (hdone.put _ (h.value _ _ _ _ _ hread))
  case fields =>
    intro depth fields first done cs hdone
    cases fields with
    | nil =>
      rw [readFields]
      exact readsDistinct_bind fun _ _ => readsDistinct_ok hdone _
    | cons field rest =>
      rw [readFields]
      refine readsDistinct_bind fun next _ => ?_
      cases next with
      | none => exact readsDistinct_bind fun _ _ => readsDistinct_ok hdone _
      | some cs =>
        refine readsDistinct_bind fun read hread => ?_
        exact h.fields _ _ _ _ _ (hdone.put _ (h.value _ _ _ _ _ hread))

/-- **What a text of the narrower format holds names nothing twice.** -/
theorem read_distinct {expected : Expected} {text : String} {document : Json}
    (h : read expected text = .ok document) : document.Distinct := by
  have hkeeps : ∀ fuel, KeepsDistinct fuel := by
    intro fuel
    induction fuel with
    | zero => exact keepsDistinct_zero
    | succ fuel ih => exact ih.succ
  obtain ⟨⟨value, rest⟩, hread, h⟩ := ok_of_bind h
  have hvalue := (hkeeps _).value _ _ _ _ _ hread
  dsimp only at h
  split at h
  · cases h
    exact hvalue
  · cases h

end Json.Reader

/-! ## 3. Texts of the wider format -/

namespace Yaml

theorem distinct_of_floatValue {text : String} {value : Json}
    (h : Plain.floatValue? text = some value) : value.Distinct := by
  rw [Plain.floatValue?] at h
  split at h
  · cases h
    trivial
  · obtain ⟨x, -, rfl⟩ := Option.map_eq_some_iff.mp h
    trivial

theorem distinct_otherValue (text : String) : (Plain.otherValue text).Distinct := by
  rw [Plain.otherValue]
  split
  · trivial
  · cases h : Plain.floatValue? text with
    | none => trivial
    | some value => exact distinct_of_floatValue h

theorem distinct_of_ofInt {n : Int} {value : Json} (h : Plain.ofInt? n = some value) :
    value.Distinct := by
  rw [Plain.ofInt?] at h
  split at h
  · cases h
    trivial
  · cases h

theorem distinct_of_value {text : String} {value : Json} (h : Plain.value? text = some value) :
    value.Distinct := by
  rw [Plain.value?] at h
  split at h
  · cases h
    trivial
  · split at h
    · cases h
      trivial
    · split at h
      · cases h
        exact distinct_otherValue text
      · exact distinct_of_ofInt h
    · cases h
      exact distinct_otherValue text

theorem distinct_of_shownValue {s : Scalar} {value : Json} (h : shownValue? s = some value) :
    value.Distinct := by
  unfold shownValue? at h
  split at h
  · exact distinct_of_value h
  · cases h
    trivial

theorem distinct_of_scalarValue {tag : Option String} {s : Scalar} {value : Json}
    (h : scalarValue? tag s = some value) : value.Distinct := by
  unfold scalarValue? at h
  split at h
  · exact distinct_of_shownValue h
  · split at h
    · cases h
    · split at h
      · obtain ⟨b, -, rfl⟩ := Option.map_eq_some_iff.mp h
        trivial
      · split at h
        · obtain ⟨n, -, hn⟩ := Option.bind_eq_some_iff.mp h
          exact distinct_of_ofInt hn
        · split at h
          · exact distinct_of_floatValue h
          · split at h
            · split at h
              · cases h
                trivial
              · cases h
            · split at h
              · exact distinct_of_shownValue h
              · cases h
                trivial

theorem distinct_of_scalarAs {expected : Expected} {tag : Option String} {s : Scalar} {value : Json}
    (h : scalarAs? expected tag s = some value) : value.Distinct := by
  cases expected with
  | any => exact distinct_of_scalarValue h
  | ignored | text =>
    cases h
    trivial
  | bool =>
    simp only [scalarAs?] at h
    split at h
    · obtain ⟨b, -, rfl⟩ := Option.map_eq_some_iff.mp h
      trivial
    · cases h
  | word =>
    simp only [scalarAs?] at h
    split at h
    · obtain ⟨n, -, rfl⟩ := Option.map_eq_some_iff.mp h
      trivial
    · cases h
  | table | record =>
    simp only [scalarAs?] at h
    split at h
    · cases h
      exact Json.distinct_empty
    · cases h

/-- Whatever a reading that follows aliases comes to is as is said. -/
def Following.Yields {α : Type} (P : α → Prop) (x : Following α) : Prop :=
  ∀ left a left', x.run left = some (a, left') → P a

namespace Following

variable {α β : Type} {P : α → Prop} {Q : β → Prop}

theorem yields_pure {a : α} (h : P a) : Yields P (pure a : Following α) := by
  rintro left _ left' ⟨⟩
  exact h

theorem yields_failure : Yields P (failure : Following α) := nofun

theorem yields_lift {x : Option α} (h : ∀ a, x = some a → P a) :
    Yields P (liftM x : Following α) := by
  intro left a left' hrun
  obtain ⟨b, hb, hrun⟩ := Option.bind_eq_some_iff.mp hrun
  cases hrun
  exact h _ hb

theorem yields_bind {x : Following α} {f : α → Following β} (hx : Yields P x)
    (hf : ∀ a, P a → Yields Q (f a)) : Yields Q (x >>= f) := by
  intro left b left' h
  obtain ⟨⟨a, between⟩, hrun, h⟩ := Option.bind_eq_some_iff.mp h
  exact hf a (hx _ _ _ hrun) _ _ _ h

theorem yields_true (x : Following α) : Yields (fun _ => True) x := fun _ _ _ _ => trivial

theorem yields_mapM {γ : Type} {f : γ → Following α} (hf : ∀ c, Yields P (f c)) :
    ∀ items : List γ, Yields (fun as => ∀ a ∈ as, P a) (items.mapM f)
  | [] => yields_pure nofun
  | item :: rest => by
    rw [List.mapM_cons]
    refine yields_bind (hf item) fun a ha => yields_bind (yields_mapM hf rest) fun as has => ?_
    refine yields_pure fun other hother => ?_
    rcases List.mem_cons.mp hother with rfl | hother
    · exact ha
    · exact has other hother

theorem yields_foldlM {γ : Type} {f : α → γ → Following α}
    (hf : ∀ a, P a → ∀ c, Yields P (f a c)) :
    ∀ (items : List γ) (a : α), P a → Yields P (items.foldlM f a)
  | [], _, ha => yields_pure ha
  | item :: rest, a, ha => by
    rw [List.foldlM_cons]
    exact yields_bind (hf a ha item) fun b hb => yields_foldlM hf rest b hb

end Following

open Following

theorem entriesAs_distinct {d : Document} {depth : Nat}
    (h : ∀ expected node, Yields Json.Distinct (d.valueAs depth expected node))
    (entries : List (Node × Node)) (expected : Expected) :
    Yields Json.Distinct (Document.valueAs.entriesAs d depth entries expected) := by
  rw [Document.valueAs.entriesAs]
  refine yields_bind (P := fun members => (Json.obj members).Distinct) ?_ fun members hmembers =>
    yields_pure hmembers
  refine yields_foldlM (fun members hmembers entry => ?_) entries [] Json.distinct_empty
  refine yields_bind (yields_true _) fun key _ => yields_bind (h _ _) fun value hvalue => ?_
  exact yields_pure (hmembers.put key hvalue)

theorem valueAs_distinct (d : Document) (depth : Nat) : ∀ (expected : Expected) (node : Node),
    Yields Json.Distinct (d.valueAs depth expected node) := by
  induction depth using Nat.strongRecOn with
  | ind depth ih =>
    intro expected node
    unfold Document.valueAs
    split
    · exact yields_pure trivial
    · refine yields_bind (yields_true _) fun found _ => ?_
      split
      · exact yields_lift fun _ h => distinct_of_scalarAs h
      · split
        · exact yields_failure
        · refine yields_bind (yields_mapM (ih _ (Nat.lt_succ_self _) _) _) fun items hitems => ?_
          exact yields_pure (Json.distinct_arr hitems)
      · split
        · exact yields_failure
        · refine yields_bind (yields_mapM (fun e => ih _ (Nat.lt_succ_self _) _ _) _) ?_
          exact fun items hitems => yields_pure (Json.distinct_arr hitems)
      · split
        · exact yields_failure
        · exact entriesAs_distinct (ih _ (Nat.lt_succ_self _)) _ _
      · exact entriesAs_distinct (ih _ (Nat.lt_succ_self _)) _ _
      · refine yields_bind (P := fun members => (Json.obj members).Distinct) ?_
          fun members hmembers => yields_pure hmembers
        refine yields_foldlM (fun members hmembers entry => ?_) _ [] Json.distinct_empty
        refine yields_bind (yields_true _) fun key _ => ?_
        split
        · exact yields_pure hmembers
        · split
          · exact yields_failure
          · next hnew =>
            refine yields_bind (ih _ (Nat.lt_succ_self _) _ _) fun value hvalue => ?_
            have hnone := Option.not_isSome_iff_eq_none.mp hnew
            rw [← Entries.put_of_get?_eq_none value hnone]
            exact yields_pure (hmembers.put key hvalue)
      · exact yields_failure

/-- **What a text of the wider format holds names nothing twice.** -/
theorem read?_distinct {expected : Expected} {text : String} {document : Json}
    (h : read? expected text = some document) : document.Distinct := by
  obtain ⟨d, -, h⟩ := Option.bind_eq_some_iff.mp h
  obtain ⟨⟨value, left⟩, hrun, rfl⟩ := Option.map_eq_some_iff.mp h
  exact valueAs_distinct d _ _ _ _ _ _ hrun

end Yaml

/-! ## 4. Loading -/

theorem distinct_of_documentOfText {expected : Expected} {path text : String} {document : Json}
    (h : documentOfText expected path text = .ok document) : document.Distinct := by
  simp only [documentOfText] at h
  split at h
  · next hread =>
    cases h
    cases hformat : DocumentFormat.ofPath path with
    | json =>
      rw [hformat, DocumentFormat.read?] at hread
      cases hjson : Json.Reader.read expected text with
      | error fault =>
        rw [hjson] at hread
        cases hread
      | ok value =>
        rw [hjson] at hread
        cases hread
        exact Json.Reader.read_distinct hjson
    | yaml =>
      rw [hformat] at hread
      exact Yaml.read?_distinct hread
  · cases h

namespace Loading

theorem store_discover (l : Loading) (current reference : String) :
    (l.discover current reference).store = l.store := by
  simp only [discover]
  split
  · rfl
  · split <;> rfl

theorem distinct_accept {l : Loading} (h : l.store.Distinct) (key : String) {document : Json}
    (hdocument : document.Distinct) : (l.accept key document).store.Distinct := by
  have hfold : ∀ (references : List String) (l : Loading),
      (references.foldl (fun l reference => l.discover key reference) l).store = l.store := by
    intro references
    induction references with
    | nil => exact fun _ => rfl
    | cons reference rest ih =>
      intro l
      rw [List.foldl_cons, ih, store_discover]
  rw [accept]
  refine DocumentStore.Distinct.insert ?_ key hdocument
  rw [hfold]
  exact h

/-- A turn keeps the documents without repeated names. -/
theorem distinct_turn {look : String → FileState} {l next : Loading} {key : String}
    (h : l.store.Distinct) (hturn : turn look l key = .ok next) : next.store.Distinct := by
  obtain ⟨path, -, hturn⟩ := ok_of_bind hturn
  split at hturn
  · split at hturn
    · cases hturn
    · cases hturn
      exact h
  · cases hturn
  · next content _ =>
    obtain ⟨document, hdocument, hturn⟩ := ok_of_bind hturn
    cases hturn
    exact distinct_accept h key (distinct_of_documentOfText (ok_of_mapError hdocument))

end Loading

end SchemaMock
