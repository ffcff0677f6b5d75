/-
# Entries in another order

Two tables are the same but for the order of their entries if the entries of the one can be brought
into the order of the other, and then have the same names and values that are related one by one
(`Entries.Reordered`).  What is looked up in such tables is related, and so is what is chosen by
name, put together, or made of all entries.

Results that may be missing are related by `Option.Rel`: both are missing, or neither is and what
they are is related.
-/
import Mathlib.Data.List.Forall2
import SchemaMock.Proofs.Answers

namespace SchemaMock

/-! ## 1. Related results -/

section Results

variable {α β γ δ : Type} {R : α → β → Prop}

/-- Results that are related can be used alike. -/
theorem rel_bind {S : γ → δ → Prop} {a : Option α} {b : Option β} {f : α → Option γ}
    {g : β → Option δ} (h : Option.Rel R a b)
    (hf : ∀ x y, R x y → Option.Rel S (f x) (g y)) : Option.Rel S (a.bind f) (b.bind g) := by
  cases h with
  | none => exact .none
  | some hR => exact hf _ _ hR

theorem rel_map {S : γ → δ → Prop} {a : Option α} {b : Option β} {f : α → γ} {g : β → δ}
    (h : Option.Rel R a b) (hf : ∀ x y, R x y → S (f x) (g y)) :
    Option.Rel S (a.map f) (b.map g) := by
  cases h with
  | none => exact .none
  | some hR => exact .some (hf _ _ hR)

theorem rel_imp {S : α → β → Prop} {a : Option α} {b : Option β} (h : Option.Rel R a b)
    (himp : ∀ x y, R x y → S x y) : Option.Rel S a b := by
  cases h with
  | none => exact .none
  | some hR => exact .some (himp _ _ hR)

theorem rel_cases {a : Option α} {b : Option β} (h : Option.Rel R a b) :
    (a = none ∧ b = none) ∨ ∃ x y, a = some x ∧ b = some y ∧ R x y := by
  cases h with
  | none => exact Or.inl ⟨rfl, rfl⟩
  | some hR => exact Or.inr ⟨_, _, rfl, rfl, hR⟩

theorem rel_trans {S : β → γ → Prop} {T : α → γ → Prop} {a : Option α} {b : Option β}
    {c : Option γ} (h : Option.Rel R a b) (h' : Option.Rel S b c)
    (hT : ∀ x y z, R x y → S y z → T x z) : Option.Rel T a c := by
  cases h with
  | none =>
    cases h' with
    | none => exact .none
  | some hR =>
    cases h' with
    | some hS => exact .some (hT _ _ _ hR hS)

/-- Of two lists that are related one by one, whatever is true of the items on the left can be
used. -/
theorem forall₂_mem_left {as : List α} {bs : List β} (h : List.Forall₂ R as bs) :
    List.Forall₂ (fun a b => a ∈ as ∧ R a b) as bs :=
  (List.forall₂_and_left as bs).mpr ⟨fun _ ha => ha, h⟩

theorem forall₂_getElem? {as : List α} {bs : List β} (h : List.Forall₂ R as bs) (i : Nat) :
    Option.Rel R as[i]? bs[i]? := by
  induction h generalizing i with
  | nil => exact .none
  | cons hfirst _ ih =>
    cases i with
    | zero => exact .some hfirst
    | succ i => exact ih i

end Results

/-! ## 2. Entries in another order -/

namespace Entries

variable {α β γ δ : Type} {R : α → β → Prop} {S : γ → δ → Prop}

/-- Entries with the same names and related values, in the same order. -/
abbrev Related (R : α → β → Prop) : Entries α → Entries β → Prop :=
  List.Forall₂ fun e e' => e.1 = e'.1 ∧ R e.2 e'.2

/-- Entries with the same names and related values, in any order. -/
def Reordered (R : α → β → Prop) (entries : Entries α) (entries' : Entries β) : Prop :=
  ∃ between, Related R entries between ∧ between.Perm entries'

theorem related_of_keys {entries : Entries α} {entries' : Entries β}
    (hkeys : keys entries' = keys entries)
    (hvalues : List.Forall₂ R (entries.map Prod.snd) (entries'.map Prod.snd)) :
    Related R entries entries' := by
  induction entries generalizing entries' with
  | nil =>
    cases entries' with
    | nil => exact .nil
    | cons e' rest' => cases hkeys
  | cons e rest ih =>
    cases entries' with
    | nil => cases hkeys
    | cons e' rest' =>
      obtain ⟨hkey, hkeys⟩ := List.cons.inj hkeys
      obtain ⟨hvalue, hvalues⟩ := List.forall₂_cons.mp hvalues
      exact .cons ⟨hkey.symm, hvalue⟩ (ih hkeys hvalues)

namespace Related

variable {entries : Entries α} {entries' : Entries β}

theorem keys_eq (h : Related R entries entries') : keys entries = keys entries' := by
  induction h with
  | nil => rfl
  | cons hfirst _ ih => exact List.cons_eq_cons.mpr ⟨hfirst.1, ih⟩

theorem values (h : Related R entries entries') :
    List.Forall₂ R (entries.map Prod.snd) (entries'.map Prod.snd) := by
  rw [List.forall₂_map_left_iff, List.forall₂_map_right_iff]
  exact h.imp fun _ _ hfirst => hfirst.2

theorem get?_rel (h : Related R entries entries') (key : String) :
    Option.Rel R (get? key entries) (get? key entries') := by
  induction h with
  | nil => exact .none
  | @cons e e' rest rest' hfirst _ ih =>
    obtain ⟨k, a⟩ := e
    obtain ⟨k', a'⟩ := e'
    obtain ⟨rfl, hvalue⟩ : k = k' ∧ R a a' := hfirst
    rw [get?, get?]
    by_cases hkey : k = key
    · rw [if_pos hkey, if_pos hkey]
      exact .some hvalue
    · rw [if_neg hkey, if_neg hkey]
      exact ih

/-- Values can be replaced by values that are related for related ones under one name. -/
theorem map {f : String × α → γ} {g : String × β → δ} (h : Related R entries entries')
    (hf : ∀ e e', e.1 = e'.1 → R e.2 e'.2 → S (f e) (g e')) :
    Related S (entries.map fun e => (e.1, f e)) (entries'.map fun e => (e.1, g e)) := by
  rw [Related, List.forall₂_map_left_iff, List.forall₂_map_right_iff]
  exact h.imp fun e e' he => ⟨he.1, hf e e' he.1 he.2⟩

/-- The entries whose names are chosen. -/
theorem filter {p q : String → Bool} (h : Related R entries entries') (hpq : ∀ key, p key = q key) :
    Related R (entries.filter fun e => p e.1) (entries'.filter fun e => q e.1) := by
  induction h with
  | nil => exact .nil
  | @cons e e' rest rest' hfirst _ ih =>
    have hchosen : q e'.1 = p e.1 := by rw [hpq, hfirst.1]
    rw [List.filter_cons, List.filter_cons, hchosen]
    split
    · exact .cons hfirst ih
    · exact ih

/-- What comes of all entries, if something comes of each of them. -/
theorem mapM_rel {f : String × α → Option γ} {g : String × β → Option δ}
    (h : Related R entries entries')
    (hf : ∀ e e', e.1 = e'.1 → R e.2 e'.2 → Option.Rel S (f e) (g e')) :
    Option.Rel (Related S) (entries.mapM fun e => (f e).map fun c => (e.1, c))
      (entries'.mapM fun e => (g e).map fun c => (e.1, c)) := by
  induction h with
  | nil => exact .some .nil
  | @cons e e' rest rest' hfirst _ ih =>
    rw [List.mapM_cons, List.mapM_cons]
    have hnamed : Option.Rel (fun c d => c.1 = d.1 ∧ S c.2 d.2) ((f e).map fun c => (e.1, c))
        ((g e').map fun d => (e'.1, d)) :=
      rel_map (hf e e' hfirst.1 hfirst.2) fun c d hcd => ⟨hfirst.1, hcd⟩
    exact rel_bind hnamed fun c d hcd => rel_bind ih fun cs ds hrest => .some (.cons hcd hrest)

end Related

/-- What comes of all items of a list does not depend on their order, but for its own order. -/
theorem mapM_perm {f : α → Option β} {items items' : List α} (h : items.Perm items') :
    Option.Rel List.Perm (items.mapM f) (items'.mapM f) := by
  induction h with
  | nil => exact .some (.refl _)
  | @cons item rest rest' _ ih =>
    rw [List.mapM_cons, List.mapM_cons]
    cases f item with
    | none => exact .none
    | some b =>
      change Option.Rel List.Perm ((rest.mapM f).bind fun bs => some (b :: bs))
        ((rest'.mapM f).bind fun bs => some (b :: bs))
      exact rel_bind ih fun bs bs' hperm => .some (hperm.cons b)
  | swap first second rest =>
    simp only [List.mapM_cons]
    cases f first with
    | none => cases f second <;> exact .none
    | some b =>
      cases f second with
      | none => exact .none
      | some c =>
        cases rest.mapM f with
        | none => exact .none
        | some bs => exact .some (.swap b c bs)
  | trans _ _ ih ih' => exact rel_trans ih ih' fun _ _ _ hperm hperm' => hperm.trans hperm'

namespace Reordered

variable {entries : Entries α} {entries' : Entries β}

theorem of_related (h : Related R entries entries') : Reordered R entries entries' :=
  ⟨entries', h, .refl _⟩

theorem of_keys {between : Entries β} (hkeys : keys between = keys entries)
    (hvalues : List.Forall₂ R (entries.map Prod.snd) (between.map Prod.snd))
    (hperm : between.Perm entries') : Reordered R entries entries' :=
  ⟨between, related_of_keys hkeys hvalues, hperm⟩

theorem keys_perm (h : Reordered R entries entries') : (keys entries).Perm (keys entries') := by
  obtain ⟨between, hrelated, hperm⟩ := h
  rw [hrelated.keys_eq]
  exact hperm.map Prod.fst

/-- What stands under a name does not depend on the order. -/
theorem get?_rel (h : Reordered R entries entries') (hnodup : (keys entries).Nodup) (key : String) :
    Option.Rel R (get? key entries) (get? key entries') := by
  obtain ⟨between, hrelated, hperm⟩ := h
  rw [hrelated.keys_eq] at hnodup
  rw [← get?_perm hnodup hperm]
  exact hrelated.get?_rel key

theorem map {f : String × α → γ} {g : String × β → δ} (h : Reordered R entries entries')
    (hf : ∀ e e', e.1 = e'.1 → R e.2 e'.2 → S (f e) (g e')) :
    Reordered S (entries.map fun e => (e.1, f e)) (entries'.map fun e => (e.1, g e)) := by
  obtain ⟨between, hrelated, hperm⟩ := h
  exact ⟨_, hrelated.map hf, hperm.map _⟩

theorem filter {p q : String → Bool} (h : Reordered R entries entries')
    (hpq : ∀ key, p key = q key) :
    Reordered R (entries.filter fun e => p e.1) (entries'.filter fun e => q e.1) := by
  obtain ⟨between, hrelated, hperm⟩ := h
  exact ⟨_, hrelated.filter hpq, hperm.filter _⟩

theorem append {more : Entries α} {more' : Entries β} (h : Reordered R entries entries')
    (hmore : Reordered R more more') : Reordered R (entries ++ more) (entries' ++ more') := by
  obtain ⟨between, hrelated, hperm⟩ := h
  obtain ⟨between', hrelated', hperm'⟩ := hmore
  exact ⟨_, List.rel_append hrelated hrelated', hperm.append hperm'⟩

theorem mapM_rel {f : String × α → Option γ} {g : String × β → Option δ}
    (h : Reordered R entries entries')
    (hf : ∀ e e', e.1 = e'.1 → R e.2 e'.2 → Option.Rel S (f e) (g e')) :
    Option.Rel (Reordered S) (entries.mapM fun e => (f e).map fun c => (e.1, c))
      (entries'.mapM fun e => (g e).map fun c => (e.1, c)) := by
  obtain ⟨between, hrelated, hperm⟩ := h
  exact rel_trans (hrelated.mapM_rel hf) (mapM_perm hperm) fun _ between' _ hrelated' hperm' =>
    ⟨between', hrelated', hperm'⟩

/-- What is known of the values on the left can be used. -/
theorem and_left {P : α → Prop} (h : Reordered R entries entries')
    (hP : ∀ a ∈ entries.map Prod.snd, P a) :
    Reordered (fun a b => P a ∧ R a b) entries entries' := by
  obtain ⟨between, hrelated, hperm⟩ := h
  refine ⟨between, (forall₂_mem_left hrelated).imp fun e e' hboth => ?_, hperm⟩
  exact ⟨hboth.2.1, hP e.2 (List.mem_map_of_mem hboth.1), hboth.2.2⟩

/-- Every entry has one in the other list. -/
theorem exists_right (h : Reordered R entries entries') {e : String × α} (he : e ∈ entries) :
    ∃ e' ∈ entries', e.1 = e'.1 ∧ R e.2 e'.2 := by
  obtain ⟨between, hrelated, hperm⟩ := h
  obtain ⟨e', he', hsame⟩ := exists_of_forall₂ hrelated.flip he
  exact ⟨e', hperm.subset he', hsame⟩

theorem exists_left (h : Reordered R entries entries') {e' : String × β} (he' : e' ∈ entries') :
    ∃ e ∈ entries, e.1 = e'.1 ∧ R e.2 e'.2 := by
  obtain ⟨between, hrelated, hperm⟩ := h
  exact exists_of_forall₂ hrelated (hperm.symm.subset he')

theorem eq_nil_iff (h : Reordered R entries entries') : entries = [] ↔ entries' = [] := by
  have hlength := h.keys_perm.length_eq
  rw [keys, keys, List.length_map, List.length_map] at hlength
  rw [← List.length_eq_zero_iff, hlength, List.length_eq_zero_iff]

end Reordered

end Entries

end SchemaMock
