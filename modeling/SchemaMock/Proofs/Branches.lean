/-
# Branches of a resolution

While a schema is resolved, references are followed one inside another.  The targets that have been
entered so far are a branch: each is told by a reference that stands in the document of the one
before.  A resolution does not keep the targets.  It keeps their addresses, which are texts, and
before it enters a target it asks whether the address is among them.

In documents whose keys have no mark, the texts say as much as the targets: an address is among
those of a branch exactly if its own target has been entered, the same way in the same document
(`Branch.mem_chain_iff`).  So the resolution can be made once more with the targets themselves in
the place of their addresses (`comparing`), and it is the same resolution (`comparing_eq`).
-/
import SchemaMock.Proofs.Cycles

namespace SchemaMock

/-! ## 1. Addresses of references -/

theorem Target.address_told (reference current : String) :
    (told reference current).address = (Reference.read reference current).address current := by
  rw [address, told, Reference.address]

/-- Two references have the same address exactly if they tell the same document and the same way
inside it. -/
theorem Reference.address_eq_iff {current current' : String} (h : '#' ∉ current.toList)
    (h' : '#' ∉ current'.toList) (reference reference' : String) :
    (Reference.read reference current).address current
        = (Reference.read reference' current').address current' ↔
      (Reference.read reference current).document current
          = (Reference.read reference' current').document current' ∧
        (Reference.read reference current).segments
          = (Reference.read reference' current').segments := by
  constructor
  · intro haddress
    rw [← Target.address_told, ← Target.address_told] at haddress
    have htarget : Target.told reference current = Target.told reference' current' :=
      Target.address_injective (Target.unmarked_told reference h)
        (Target.unmarked_told reference' h') haddress
    simpa only [Target.told, Target.mk.injEq] using htarget
  · rintro ⟨hdocument, hsegments⟩
    rw [Reference.address, Reference.address, hdocument, hsegments]

/-! ## 2. Entering -/

namespace Environment

variable {env next : Environment} {reference : String} {fault : MockFault}

/-- The environment inside the target of a reference, unless its address is being resolved. -/
def entering (env : Environment) (reference : String) : Except MockFault Environment :=
  env.enter ((Reference.read reference env.documentKey).address env.documentKey)
    ((Reference.read reference env.documentKey).document env.documentKey)

theorem entering_eq (env : Environment) (reference : String) :
    env.entering reference
      = if (env.target reference).address ∈ env.chain then
          .error (env.cycle (env.target reference).address)
        else .ok (env.inside reference) := by
  rw [entering, enter, ← Target.address_told]
  rfl

theorem entering_ok_iff :
    env.entering reference = .ok next ↔
      (env.target reference).address ∉ env.chain ∧ next = env.inside reference := by
  rw [entering_eq]
  split
  · next hmem => simp [hmem]
  · next hfresh => simp [hfresh, eq_comm]

theorem entering_error_iff :
    env.entering reference = .error fault ↔
      (env.target reference).address ∈ env.chain ∧
        fault = env.cycle (env.target reference).address := by
  rw [entering_eq]
  split
  · next hmem => simp [hmem, eq_comm]
  · next hfresh => simp [hfresh]

end Environment

/-! ## 3. Branches -/

/-- From `start`, the targets `entered` have been entered one inside another, and `inner` is the
environment inside the last of them. -/
inductive Branch (start : Environment) : (entered : List Target) → (inner : Environment) → Prop
  | begins : Branch start [] start
  | enters {entered : List Target} {inner next : Environment} {reference : String}
      (h : Branch start entered inner) (henter : inner.entering reference = .ok next) :
      Branch start (entered ++ [inner.target reference]) next

namespace Branch

variable {start inner : Environment} {entered : List Target}

theorem inside (h : Branch start entered inner) (reference : String)
    (hfresh : (inner.target reference).address ∉ inner.chain) :
    Branch start (entered ++ [inner.target reference]) (inner.inside reference) :=
  .enters h (Environment.entering_ok_iff.mpr ⟨hfresh, rfl⟩)

/-- What is kept of a branch are the addresses of its targets. -/
theorem chain_eq (h : Branch start entered inner) :
    inner.chain = start.chain ++ entered.map Target.address := by
  induction h with
  | begins => exact (List.append_nil _).symm
  | enters _ henter ih =>
    obtain ⟨-, rfl⟩ := Environment.entering_ok_iff.mp henter
    rw [Environment.inside, ih, List.map_append, List.append_assoc]
    rfl

/-- A branch that begins in an unmarked document stays in unmarked documents. -/
theorem unmarked (h : Branch start entered inner) (hkey : '#' ∉ start.documentKey.toList) :
    '#' ∉ inner.documentKey.toList ∧ ∀ target ∈ entered, target.Unmarked := by
  induction h with
  | begins => exact ⟨hkey, List.forall_mem_nil _⟩
  | @enters entered inner next reference _ henter ih =>
    obtain ⟨-, rfl⟩ := Environment.entering_ok_iff.mp henter
    have htarget : (inner.target reference).Unmarked := Target.unmarked_told reference ih.1
    exact ⟨htarget, List.forall_mem_append.mpr ⟨ih.2, List.forall_mem_singleton.mpr htarget⟩⟩

/-- **An address is being resolved exactly if its target has been entered.** -/
theorem mem_chain_iff (h : Branch start entered inner) (hkey : '#' ∉ start.documentKey.toList)
    (hchain : start.chain = []) (reference : String) :
    (inner.target reference).address ∈ inner.chain ↔ inner.target reference ∈ entered := by
  obtain ⟨hinner, hentered⟩ := h.unmarked hkey
  rw [h.chain_eq, hchain, List.nil_append, List.mem_map]
  constructor
  · rintro ⟨target, hmem, haddress⟩
    have hsame : target = inner.target reference := Target.address_injective
      (hentered target hmem) (Target.unmarked_told reference hinner) haddress
    exact hsame ▸ hmem
  · exact fun hmem => ⟨_, hmem, rfl⟩

end Branch

/-! ## 4. Targets in the place of addresses -/

/-- One layer of the resolution which asks, for a reference, whether the target itself has been
entered. -/
def compareLayer (ask : List Target → Resolver) (entered : List Target) : Resolver :=
  fun env membership placed =>
    match placed.schema with
    | .reference reference =>
      if env.target reference ∈ entered then throw (env.cycle (env.target reference).address)
      else do
        let target := Reference.read reference env.documentKey
        let placed ← targetSchema env reference target (placed.site.named target.name)
        let mock ← makeLayer (ask (entered ++ [env.target reference])) (env.inside reference)
          membership placed
        Resolve.record (.reference target (placed.schema.typed mock))
        pure (placed.schema.typed mock)
    | schema => schema.typed <$> makeLayer (ask entered) env membership placed

/-- As many layers as are told that compare targets, behind those that have been entered. -/
def comparing : (layers : Nat) → (entered : List Target) → Resolver
  | 0, _ => unanswered
  | layers + 1, entered => compareLayer (comparing layers) entered

/-- **Comparing targets is comparing addresses**, along every branch that begins with nothing being
resolved. -/
theorem comparing_eq {start : Environment} (hkey : '#' ∉ start.documentKey.toList)
    (hchain : start.chain = []) (layers : Nat) {entered : List Target} {inner : Environment}
    (h : Branch start entered inner) (membership : Option Membership) (placed : PlacedSchema) :
    comparing layers entered inner membership placed
      = deepen unanswered layers inner membership placed := by
  induction layers generalizing entered inner membership placed with
  | zero => rfl
  | succ layers ih =>
    -- one layer is the same at every environment of a branch, by the layers below it
    have hmake : ∀ {entered inner}, Branch start entered inner → ∀ membership placed,
        makeLayer (comparing layers entered) inner membership placed
          = makeLayer (deepen unanswered layers) inner membership placed :=
      fun h membership placed => makeLayer_compat compatible_eq (.refl _) membership placed
        (fun _ => ih h membership placed) fun _ _ _ _ => ih h _ _
    obtain ⟨schema, site, definition⟩ := placed
    cases schema with
    | plain | array | object | combined =>
      exact congrArg (Functor.map _) (hmake h membership _)
    | reference reference =>
      simp only [comparing, compareLayer, deepen, resolveLayer]
      by_cases hmem : (inner.target reference).address ∈ inner.chain
      · rw [followLayer_of_mem hmem, if_pos ((h.mem_chain_iff hkey hchain reference).mp hmem)]
      · have hfresh := (h.mem_chain_iff hkey hchain reference).not.mp hmem
        rw [followLayer_of_notMem hmem, if_neg hfresh]
        simp only [hmake (h.inside reference hmem)]

/-- **Addresses identify targets.**  In documents whose keys have no mark, two references have the
same address exactly if they lead the same way into the same document, and the key of that document
has no mark either.  So, where nothing was being resolved at the beginning, a target of a branch is
refused exactly if it is one of those that have been entered; and a resolution that compares the
targets is the one that compares their addresses. -/
theorem addresses_identify_targets (env : Environment) (current : String)
    (hkey : '#' ∉ env.documentKey.toList) (hcurrent : '#' ∉ current.toList) :
    (∀ reference reference',
      ((Reference.read reference env.documentKey).address env.documentKey
          = (Reference.read reference' current).address current ↔
        (Reference.read reference env.documentKey).document env.documentKey
            = (Reference.read reference' current).document current ∧
          (Reference.read reference env.documentKey).segments
            = (Reference.read reference' current).segments) ∧
      '#' ∉ ((Reference.read reference env.documentKey).document env.documentKey).toList) ∧
    (env.chain = [] →
      (∀ entered inner reference, Branch env entered inner →
        ((∃ fault, inner.entering reference = .error fault) ↔
          inner.target reference ∈ entered)) ∧
      ∀ membership placed layers, layersFor env.store placed.schema ≤ layers →
        comparing layers [] env membership placed
          = placed.resolve mockResolver env membership) := by
  refine ⟨fun reference reference' => ⟨Reference.address_eq_iff hkey hcurrent reference reference',
    Target.unmarked_told reference hkey⟩, fun hchain => ⟨?_, ?_⟩⟩
  · intro entered inner reference hbranch
    rw [← hbranch.mem_chain_iff hkey hchain reference]
    constructor
    · rintro ⟨fault, hfault⟩
      exact (Environment.entering_error_iff.mp hfault).1
    · exact fun hmem => ⟨_, Environment.entering_error_iff.mpr ⟨hmem, rfl⟩⟩
  · intro membership placed layers hlayers
    rw [comparing_eq hkey hchain layers .begins]
    exact deepen_layersFor unanswered membership hlayers

/-- Inside the node of the list, the node is refused however it is written, and the label is not. -/
theorem addresses_identify_targets_list :
    (Reference.read "#/components/schemas/Node" "api.json").address "api.json"
        = (Reference.read "./api.json#components/schemas/Node" "other.json").address "other.json" ∧
      (∃ fault, (listEnvironment.inside "#/components/schemas/Node").entering
        "./api.json#components/schemas/Node" = .error fault) ∧
      (¬ ∃ fault, (listEnvironment.inside "#/components/schemas/Node").entering
        "#/components/schemas/Label" = .error fault) ∧
      comparing (layersFor listEnvironment.store labelTwice.schema) [] listEnvironment none
          labelTwice
        = labelTwice.resolve mockResolver listEnvironment none := by
  obtain ⟨haddresses, hrefused⟩ :=
    addresses_identify_targets listEnvironment "other.json" (by decide) (by decide)
  obtain ⟨hiff, hcomparing⟩ := hrefused rfl
  have hnode : Branch listEnvironment [listTarget "Node"]
      (listEnvironment.inside "#/components/schemas/Node") :=
    Branch.begins.inside "#/components/schemas/Node" List.not_mem_nil
  have hagain : (listEnvironment.inside "#/components/schemas/Node").target
      "./api.json#components/schemas/Node" = listTarget "Node" := rfl
  have hlabel : (listEnvironment.inside "#/components/schemas/Node").target
      "#/components/schemas/Label" = listTarget "Label" := rfl
  have hhere : Reference.read "#/components/schemas/Node" listEnvironment.documentKey
      = ⟨"Node", none, ["components", "schemas", "Node"]⟩ := rfl
  have helsewhere : Reference.read "./api.json#components/schemas/Node" "other.json"
      = ⟨"Node", some "api.json", ["components", "schemas", "Node"]⟩ := rfl
  refine ⟨(haddresses _ _).1.mpr ?_, (hiff _ _ _ hnode).mpr ?_, ?_,
    hcomparing none labelTwice _ (Nat.le_refl _)⟩
  · rw [hhere, helsewhere]
    exact ⟨rfl, rfl⟩
  · rw [hagain]
    exact List.mem_cons_self
  · rw [hiff _ _ _ hnode, hlabel]
    decide

end SchemaMock
