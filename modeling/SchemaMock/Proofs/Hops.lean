/-
# Where a reference ends

What stands at the target of a reference may be a reference again.  Following it goes on until
something stands there that is none, be it only because nothing stands there: `Follows` says along
which targets, and where it ends.

A resolution of a reference that succeeds has followed it to its end, and has entered every target
on the way for the first time (`follows_of_ok`).  What it comes to is what is made at the end, in
the environment that the way has led to (`Follows.of_ok`), and what is made there is what it comes
to (`Follows.ok`).  All that the way leaves behind itself are events.
-/
import SchemaMock.Proofs.Depth

namespace SchemaMock

/-! ## 1. Ways -/

/-- A reference that stands in the document of a key leads along the targets `hops` to the target
`last`, where no reference stands. -/
inductive Follows (store : DocumentStore) :
    (documentKey reference : String) → (hops : List Target) → (last : Target) → Prop
  | stops {documentKey reference : String}
      (hschema : (store.schemaAt (.told reference documentKey)).reference? = none) :
      Follows store documentKey reference [] (.told reference documentKey)
  | goesOn {documentKey reference next : String} {hops : List Target} {last : Target}
      (hschema : store.schemaAt (.told reference documentKey) = .reference next)
      (rest : Follows store (Target.told reference documentKey).documentKey next hops last) :
      Follows store documentKey reference (.told reference documentKey :: hops) last

/-- No reference stands where a reference ends. -/
theorem Follows.reference?_eq_none {store : DocumentStore} {documentKey reference : String}
    {hops : List Target} {last : Target} (h : Follows store documentKey reference hops last) :
    (store.schemaAt last).reference? = none := by
  induction h with
  | stops hschema => exact hschema
  | goesOn _ _ ih => exact ih

/-- The targets of a way are entered for the first time, if those of `chain` have been before. -/
structure Fresh (chain : List String) (path : List Target) : Prop where
  notMem : ∀ target ∈ path, target.address ∉ chain
  nodup : (path.map Target.address).Nodup

theorem fresh_cons {chain : List String} {target : Target} {path : List Target} :
    Fresh chain (target :: path) ↔
      target.address ∉ chain ∧ Fresh (chain ++ [target.address]) path := by
  constructor
  · rintro ⟨hnotMem, hnodup⟩
    rw [List.map_cons, List.nodup_cons] at hnodup
    refine ⟨hnotMem target List.mem_cons_self, fun t ht => ?_, hnodup.2⟩
    intro hmem
    rcases List.mem_append.mp hmem with hmem | hmem
    · exact hnotMem t (List.mem_cons_of_mem _ ht) hmem
    · refine hnodup.1 (List.mem_map.mpr ⟨t, ht, List.mem_singleton.mp hmem⟩)
  · rintro ⟨hfirst, hnotMem, hnodup⟩
    constructor
    · intro t ht hmem
      rcases List.mem_cons.mp ht with rfl | ht
      · exact hfirst hmem
      · exact hnotMem t ht (List.mem_append_left _ hmem)
    · rw [List.map_cons, List.nodup_cons]
      refine ⟨fun hmem => ?_, hnodup⟩
      obtain ⟨t, ht, heq⟩ := List.mem_map.mp hmem
      exact hnotMem t ht (List.mem_append_right _ (List.mem_singleton.mpr heq))

namespace Environment

/-- The environment that a way of targets leads to. -/
def along (env : Environment) : List Target → Environment
  | [] => env
  | target :: path =>
    along
      { env with documentKey := target.documentKey, chain := env.chain ++ [target.address] } path

@[simp] theorem along_store (env : Environment) (path : List Target) :
    (env.along path).store = env.store := by
  induction path generalizing env with
  | nil => rfl
  | cons target path ih => exact ih _

@[simp] theorem along_settings (env : Environment) (path : List Target) :
    (env.along path).settings = env.settings := by
  induction path generalizing env with
  | nil => rfl
  | cons target path ih => exact ih _

@[simp] theorem along_rules (env : Environment) (path : List Target) :
    (env.along path).rules = env.rules := by
  induction path generalizing env with
  | nil => rfl
  | cons target path ih => exact ih _

theorem along_chain (env : Environment) (path : List Target) :
    (env.along path).chain = env.chain ++ path.map Target.address := by
  induction path generalizing env with
  | nil => exact (List.append_nil _).symm
  | cons target path ih =>
    rw [along, ih, List.append_assoc]
    rfl

theorem along_documentKey (env : Environment) (hops : List Target) (last : Target) :
    (env.along (hops ++ [last])).documentKey = last.documentKey := by
  induction hops generalizing env with
  | nil => rfl
  | cons target hops ih => exact ih _

end Environment

/-- A site with a name keeps it. -/
theorem Site.named_of_ne {site : Site} (h : site.name ≠ "") (definition : String) :
    site.named definition = site := by
  rw [Site.named, if_neg]
  simpa using h

/-! ## 2. Following to the end -/

/-- **A reference that is resolved has been followed to its end.** -/
theorem follows_of_ok {env : Environment} {membership : Option Membership} {reference : String}
    {site : Site} {definition : Option String} {trace after : Trace} {mock : Mock}
    (h : (resolver env membership ⟨.reference reference, site, definition⟩).outcome trace
      = (.ok mock, after)) :
    ∃ hops last, Follows env.store env.documentKey reference hops last ∧
      Fresh env.chain (hops ++ [last]) := by
  rw [resolver_eq_deepen unanswered] at h
  generalize layersFor env.store _ = layers at h
  induction layers generalizing env reference site definition trace after mock with
  | zero => simp [deepen, unanswered] at h
  | succ layers ih =>
    obtain ⟨hfresh, made, left, hmade, -, -⟩ := followLayer_ok_iff.mp h
    cases hschema : env.store.schemaAt (env.target reference) with
    | reference next =>
      rw [Environment.followed, hschema] at hmade
      obtain ⟨hops, last, hfollows, hrest⟩ := ih hmade
      exact ⟨env.target reference :: hops, last, .goesOn hschema hfollows,
        fresh_cons.mpr ⟨hfresh, hrest⟩⟩
    | plain | array | object | combined =>
      refine ⟨[], env.target reference, .stops ?_, fresh_cons.mpr ⟨hfresh, by simp, by simp⟩⟩
      have hinline := congrArg Schema.reference? hschema
      exact hinline

/-- **What a reference comes to is made where it ends**, for a site with a name.  The trace is the
same there but for events. -/
theorem Follows.of_ok {store : DocumentStore} {documentKey reference : String} {hops : List Target}
    {last : Target} (h : Follows store documentKey reference hops last) {env : Environment}
    (hstore : env.store = store) (hkey : env.documentKey = documentKey)
    {membership : Option Membership} {site : Site} {definition : Option String}
    {trace after : Trace} {mock : Mock} (hname : site.name ≠ "")
    (hok : (resolver env membership ⟨.reference reference, site, definition⟩).outcome trace
      = (.ok mock, after)) :
    ∃ name start made left,
      (makeLayer resolver (env.along (hops ++ [last])) membership
        ⟨store.schemaAt last, site, some name⟩).outcome start = (.ok made, left) ∧
      (store.schemaAt last).typed made = mock ∧
      start.imports = trace.imports ∧ left.imports = after.imports := by
  induction h generalizing env definition trace after mock with
  | @stops documentKey reference hschema =>
    subst hstore hkey
    rw [resolver_reference] at hok
    obtain ⟨-, made, left, hmade, htyped, rfl⟩ := followLayer_ok_iff.mp hok
    rw [Environment.followed, Site.named_of_ne hname] at hmade htyped
    exact ⟨_, _, made, left, hmade, htyped, env.imports_reported reference trace, rfl⟩
  | @goesOn documentKey reference next hops last hschema _ ih =>
    subst hstore hkey
    rw [resolver_reference] at hok
    obtain ⟨-, made, left, hmade, htyped, rfl⟩ := followLayer_ok_iff.mp hok
    have hnext : env.store.schemaAt (env.target reference) = .reference next := hschema
    rw [Environment.followed, Site.named_of_ne hname, hnext] at hmade htyped
    -- the type of a mock is told where the reference ends
    have hsame : made = mock := htyped
    obtain ⟨name, start, made', left', hmade', htyped', hstart, hleft⟩ :=
      ih (env.store_inside reference) rfl hmade
    refine ⟨name, start, made', left', hmade', htyped'.trans hsame, ?_, hleft⟩
    rw [hstart, env.imports_reported]

/-- **What is made where a reference ends is what it comes to**, for a site with a name, if nothing
but events depends on the trace there. -/
theorem Follows.ok {store : DocumentStore} {documentKey reference : String} {hops : List Target}
    {last : Target} (h : Follows store documentKey reference hops last) {env : Environment}
    (hstore : env.store = store) (hkey : env.documentKey = documentKey)
    (hfresh : Fresh env.chain (hops ++ [last])) {membership : Option Membership} {site : Site}
    {definition : Option String} {made : Mock} (hname : site.name ≠ "")
    (hmade : ∀ name start, ∃ left,
      (makeLayer resolver (env.along (hops ++ [last])) membership
        ⟨store.schemaAt last, site, some name⟩).outcome start = (.ok made, left) ∧
      left.imports = start.imports) (trace : Trace) :
    ∃ after, (resolver env membership ⟨.reference reference, site, definition⟩).outcome trace
      = (.ok ((store.schemaAt last).typed made), after) ∧ after.imports = trace.imports := by
  induction h generalizing env definition trace with
  | @stops documentKey reference hschema =>
    subst hstore hkey
    obtain ⟨hfirst, -⟩ := fresh_cons.mp hfresh
    obtain ⟨left, hleft, himports⟩ := hmade (Reference.read reference env.documentKey).name
      (env.reported reference trace)
    rw [resolver_reference]
    refine ⟨_, followLayer_ok_iff.mpr ⟨hfirst, made, left, ?_, rfl, rfl⟩, ?_⟩
    · rw [Environment.followed, Site.named_of_ne hname]
      exact hleft
    · exact himports.trans (env.imports_reported reference trace)
  | @goesOn documentKey reference next hops last hschema _ ih =>
    subst hstore hkey
    obtain ⟨hfirst, hrest⟩ := fresh_cons.mp hfresh
    have hnext : env.store.schemaAt (env.target reference) = .reference next := hschema
    obtain ⟨left, hleft, himports⟩ := ih (env.store_inside reference) rfl hrest hmade
      (env.reported reference trace)
    rw [resolver_reference]
    refine ⟨_, followLayer_ok_iff.mpr
      ⟨hfirst, (env.store.schemaAt last).typed made, left, ?_, ?_, rfl⟩, ?_⟩
    · rw [Environment.followed, Site.named_of_ne hname, hnext]
      exact hleft
    · rw [Environment.followed, hnext]
      rfl
    · exact himports.trans (env.imports_reported reference trace)

end SchemaMock
