/-
# Loading computes a closure

Loading is a row of turns over keys that wait.  Once no key waits, the documents that have been
loaded are closed: whatever document one of them refers to is there, or there is no way to load it.

* `Json.Refers` says which references a document has, at any depth; `DocumentStore.RefersTo` joins
  them with the key of their document.
* `Loading.Sound` is what one turn keeps.  A key that has been told has had its turn, waits, or is
  no file; a key that has had its turn is stored or was skipped, and none has two.  It is kept by
  the discovery of a key (`Sound.discover`), so by a turn (`Sound.turn`), so by all of them
  (`Sound.ends`).
* `Loading.Ends` tells the keys that have had a turn, one after another, and what it came to in the
  end; a turn is where one looks for the file of a key.  What is run is that (`run_of_ends`).
-/
import Mathlib.Logic.Relation
import SchemaMock.Proofs.Reading
import SchemaMock.Proofs.Targets

namespace SchemaMock

open Relation (ReflTransGen)

/-! ## 1. References of documents -/

/-- A node has a member `$ref` with a text, at any depth. -/
inductive Json.Refers : Json → String → Prop
  | here {members : List (String × Json)} {reference : String}
      (hmem : ("$ref", .str reference) ∈ members) : Refers (.obj members) reference
  | child {node child : Json} {reference : String} (hmem : child ∈ node.children)
      (h : Refers child reference) : Refers node reference

namespace Json

mutual
theorem refers_of_mem_references {reference : String} : ∀ {node : Json},
    reference ∈ node.references → node.Refers reference
  | .arr items, h => by
    rw [references] at h
    obtain ⟨item, hitem, hrefers⟩ := refers_of_mem_referencesOfItems h
    exact .child hitem hrefers
  | .obj members, h => by
    rw [references] at h
    rcases refers_of_mem_referencesOfMembers h with hmem | ⟨value, hvalue, hrefers⟩
    · exact .here hmem
    · exact .child hvalue hrefers
  | .null, h | .bool _, h | .num _, h | .str _, h => by simp [references] at h

theorem refers_of_mem_referencesOfItems {reference : String} : ∀ {items : List Json},
    reference ∈ referencesOfItems items → ∃ item ∈ items, item.Refers reference
  | [], h => by simp [referencesOfItems] at h
  | item :: rest, h => by
    rw [referencesOfItems] at h
    rcases List.mem_append.mp h with h | h
    · exact ⟨item, List.mem_cons_self, refers_of_mem_references h⟩
    · obtain ⟨other, hother, hrefers⟩ := refers_of_mem_referencesOfItems h
      exact ⟨other, List.mem_cons_of_mem _ hother, hrefers⟩

theorem refers_of_mem_referencesOfMembers {reference : String} :
    ∀ {members : List (String × Json)}, reference ∈ referencesOfMembers members →
      ("$ref", .str reference) ∈ members ∨ ∃ value ∈ members.map Prod.snd, value.Refers reference
  | [], h => by simp [referencesOfMembers] at h
  | (key, value) :: rest, h => by
    unfold referencesOfMembers at h
    rcases List.mem_append.mp h with h | h
    · split at h
      · cases List.mem_singleton.mp h
        exact .inl List.mem_cons_self
      · exact .inr ⟨value, List.mem_cons_self, refers_of_mem_references h⟩
    · rcases refers_of_mem_referencesOfMembers h with hmem | ⟨other, hother, hrefers⟩
      · exact .inl (List.mem_cons_of_mem _ hmem)
      · exact .inr ⟨other, List.mem_cons_of_mem _ hother, hrefers⟩
end

/-- The references that are looked for in a document are all that it has. -/
theorem mem_references_iff {node : Json} {reference : String} :
    reference ∈ node.references ↔ node.Refers reference := by
  constructor
  · exact refers_of_mem_references
  · intro h
    induction h with
    | here hmem => exact Schema.mem_referencesOfMembers hmem
    | child hmem _ ih => exact (inside_of_mem_children hmem).references_subset ih

end Json

/-- A document of the store has a reference that leads into the document of `target`. -/
def DocumentStore.RefersTo (store : DocumentStore) (key target : String) : Prop :=
  ∃ document reference, store.get? key = some document ∧ document.Refers reference ∧
    (Target.told reference key).documentKey = target

/-- A document more tells more. -/
theorem DocumentStore.RefersTo.insert {store : DocumentStore} {key : String} (document : Json)
    (hnew : store.get? key = none) {a b : String} (h : store.RefersTo a b) :
    (store.insert key document).RefersTo a b := by
  obtain ⟨found, reference, hget, hrefers, htold⟩ := h
  have hne : a ≠ key := by
    rintro rfl
    rw [hnew] at hget
    cases hget
  exact ⟨found, reference, (Entries.get?_put_of_ne hne).trans hget, hrefers, htold⟩

/-! ## 2. What a turn keeps -/

/-- Nothing can be loaded under a key: it means no file, or there is none. -/
def DocumentKey.Missing (look : String → FileState) (key : String) : Prop :=
  isFile key = false ∨ ∃ path, DocumentKey.path key = .ok path ∧ look path = .absent

namespace Loading

/-- Loading, after the turns of some keys. -/
structure Sound (look : String → FileState) (taken : List String) (l : Loading) : Prop where
  turnsDiffer : (taken ++ l.queue).Nodup
  root : l.root ∈ taken ++ l.queue
  mem_seen_iff : ∀ {key : String}, key ∈ l.seen ↔ key ∈ taken ++ l.queue ∨ key ∈ l.skipped
  stored_iff : ∀ {key : String},
    (∃ document, l.store.get? key = some document) ↔ key ∈ taken ∧ key ∉ l.skipped
  reached : ∀ {key : String}, key ∈ l.seen → ReflTransGen l.store.RefersTo l.root key
  skippedDiffer : l.skipped.Nodup
  skipped : ∀ {key : String}, key ∈ l.skipped →
    key ∉ l.queue ∧ key ≠ l.root ∧ DocumentKey.Missing look key

/-- Every key that the documents tell has been told. -/
def Closed (l : Loading) : Prop :=
  ∀ ⦃key target : String⦄, l.store.RefersTo key target → target ∈ l.seen

variable {look : String → FileState} {taken : List String} {l next : Loading}

/-! ### The beginning -/

theorem sound_start (look : String → FileState) (root : String) :
    Sound look [] (start root) where
  turnsDiffer := List.nodup_singleton root
  root := List.mem_singleton_self root
  mem_seen_iff := by simp [start]
  stored_iff := ⟨nofun, nofun⟩
  reached := by
    intro key hkey
    cases List.mem_singleton.mp hkey
    exact .refl
  skippedDiffer := List.nodup_nil
  skipped := nofun

theorem closed_start (root : String) : (start root).Closed := by
  rintro key target ⟨document, -, hget, -⟩
  cases hget

/-! ### Discovery -/

theorem root_discover (l : Loading) (current reference : String) :
    (l.discover current reference).root = l.root := by
  simp only [discover]
  split
  · rfl
  · split <;> rfl

theorem mem_seen_discover {current reference key : String} :
    key ∈ (l.discover current reference).seen ↔
      key ∈ l.seen ∨ key = (Target.told reference current).documentKey := by
  simp only [discover, ← show (Target.told reference current).documentKey
    = (Reference.read reference current).document current from rfl]
  split
  · next hseen =>
    exact ⟨Or.inl, fun h => h.elim id fun heq => heq ▸ hseen⟩
  · split <;> simp [or_comm]

/-- The discovery of a key that can be reached. -/
theorem Sound.discover {current reference : String} (h : Sound look taken l)
    (hreached : ReflTransGen l.store.RefersTo l.root (Target.told reference current).documentKey) :
    Sound look taken (l.discover current reference) := by
  have htarget : (Target.told reference current).documentKey
    = (Reference.read reference current).document current := rfl
  simp only [Loading.discover, ← htarget]
  generalize (Target.told reference current).documentKey = target at hreached
  split
  · exact h
  · next hseen =>
    have hnew := mt h.mem_seen_iff.mpr hseen
    push Not at hnew
    obtain ⟨hwaits, hskipped⟩ := hnew
    have hreached' : ∀ {key : String}, key ∈ target :: l.seen →
        ReflTransGen l.store.RefersTo l.root key := by
      intro key hkey
      rcases List.mem_cons.mp hkey with rfl | hkey
      · exact hreached
      · exact h.reached hkey
    split
    · refine ⟨?_, ?_, ?_, h.stored_iff, hreached', h.skippedDiffer, ?_⟩
      · rw [← List.append_assoc]
        exact List.nodup_append_comm.mp (List.nodup_cons.mpr ⟨hwaits, h.turnsDiffer⟩)
      · rw [← List.append_assoc]
        exact List.mem_append_left _ h.root
      · intro key
        rw [← List.append_assoc, List.mem_cons, List.mem_append, List.mem_singleton, h.mem_seen_iff]
        tauto
      · intro key hkey
        obtain ⟨hqueue, hroot, hmissing⟩ := h.skipped hkey
        refine ⟨fun hmem => ?_, hroot, hmissing⟩
        rcases List.mem_append.mp hmem with hmem | hmem
        · exact hqueue hmem
        · cases List.mem_singleton.mp hmem
          exact hskipped hkey
    · next hfile =>
      refine ⟨h.turnsDiffer, h.root, ?_, ?_, hreached', ?_, ?_⟩
      · intro key
        rw [List.mem_cons, h.mem_seen_iff, List.mem_append (t := [target]), List.mem_singleton]
        tauto
      · intro key
        rw [h.stored_iff]
        refine and_congr_right fun htaken => ?_
        have hne : key ≠ target := by
          rintro rfl
          exact hwaits (List.mem_append_left _ htaken)
        simp [hne]
      · exact List.nodup_append_comm.mp (List.nodup_cons.mpr ⟨hskipped, h.skippedDiffer⟩)
      · intro key hkey
        rcases List.mem_append.mp hkey with hkey | hkey
        · exact h.skipped hkey
        · cases List.mem_singleton.mp hkey
          refine ⟨fun hmem => hwaits (List.mem_append_right _ hmem), ?_,
            .inl (Bool.not_eq_true _ ▸ hfile)⟩
          intro hroot
          exact hwaits (hroot ▸ h.root)

/-- The discovery of some references, one after another. -/
def discoverAll (l : Loading) (current : String) (references : List String) : Loading :=
  references.foldl (fun l reference => l.discover current reference) l

@[simp] theorem discoverAll_cons (l : Loading) (current reference : String) (rest : List String) :
    l.discoverAll current (reference :: rest)
      = (l.discover current reference).discoverAll current rest := rfl

@[simp] theorem root_discoverAll (l : Loading) (current : String) (references : List String) :
    (l.discoverAll current references).root = l.root := by
  induction references generalizing l with
  | nil => rfl
  | cons reference rest ih => rw [discoverAll_cons, ih, root_discover]

@[simp] theorem store_discoverAll (l : Loading) (current : String) (references : List String) :
    (l.discoverAll current references).store = l.store := by
  induction references generalizing l with
  | nil => rfl
  | cons reference rest ih => rw [discoverAll_cons, ih, store_discover]

theorem Sound.discoverAll {current : String} {references : List String} (h : Sound look taken l)
    (hreached : ∀ reference ∈ references,
      ReflTransGen l.store.RefersTo l.root (Target.told reference current).documentKey) :
    Sound look taken (l.discoverAll current references) := by
  induction references generalizing l with
  | nil => exact h
  | cons reference rest ih =>
    rw [discoverAll_cons]
    refine ih (h.discover (hreached reference List.mem_cons_self)) ?_
    intro other hother
    rw [store_discover, root_discover]
    exact hreached other (List.mem_cons_of_mem _ hother)

theorem mem_seen_discoverAll {current key : String} {references : List String} :
    key ∈ (l.discoverAll current references).seen ↔
      key ∈ l.seen ∨
        ∃ reference ∈ references, key = (Target.told reference current).documentKey := by
  induction references generalizing l with
  | nil => simp [Loading.discoverAll]
  | cons reference rest ih =>
    rw [discoverAll_cons, ih, mem_seen_discover, List.exists_mem_cons_iff, or_assoc]

/-! ### Turns -/

/-- Discovery does not look at the documents. -/
theorem discoverAll_store (current : String) (references : List String) (l : Loading)
    (store : DocumentStore) :
    { l with store := store }.discoverAll current references
      = { l.discoverAll current references with store := store } := by
  induction references generalizing l with
  | nil => rfl
  | cons reference rest ih =>
    have hone : { l with store := store }.discover current reference
        = { l.discover current reference with store := store } := by
      simp only [discover]
      split
      · rfl
      · split <;> rfl
    rw [discoverAll_cons, discoverAll_cons, hone, ih]

/-- A document may be stored before its references are looked at. -/
theorem accept_eq (l : Loading) (key : String) (document : Json) :
    l.accept key document
      = { l with store := l.store.insert key document }.discoverAll key document.references := by
  rw [discoverAll_store, ← store_discoverAll l key document.references]
  rfl

/-- A key that waits has no document yet. -/
theorem Sound.get?_of_mem_queue {key : String} (h : Sound look taken l) (hwaits : key ∈ l.queue) :
    l.store.get? key = none := by
  cases hget : l.store.get? key with
  | none => rfl
  | some document =>
    have htaken := (h.stored_iff.mp ⟨document, hget⟩).1
    exact absurd hwaits (List.disjoint_of_nodup_append h.turnsDiffer htaken)

/-- The turn of a key whose file is not there. -/
theorem Sound.skip {key : String} {rest : List String} (h : Sound look taken l)
    (hqueue : l.queue = key :: rest) (hroot : key ≠ l.root)
    (hmissing : DocumentKey.Missing look key) :
    Sound look (taken ++ [key]) ({ l with queue := rest }.skip key) := by
  have hkeys : taken ++ [key] ++ rest = taken ++ l.queue := by
    rw [hqueue, List.append_assoc, List.singleton_append]
  have hwaits : key ∈ l.queue := hqueue ▸ List.mem_cons_self
  have hrest : key ∉ rest := (List.nodup_cons.mp (hqueue ▸ h.turnsDiffer.of_append_right)).1
  refine ⟨?_, ?_, ?_, ?_, h.reached, ?_, ?_⟩
  · rw [Loading.skip, hkeys]
    exact h.turnsDiffer
  · rw [Loading.skip, hkeys]
    exact h.root
  · intro other
    simp only [Loading.skip, hkeys]
    rw [h.mem_seen_iff, List.mem_append (t := [key]), List.mem_singleton]
    refine ⟨fun hseen => hseen.imp id Or.inl, ?_⟩
    rintro (hother | hother | rfl)
    · exact .inl hother
    · exact .inr hother
    · exact .inl (List.mem_append_right _ hwaits)
  · intro other
    simp only [Loading.skip]
    rw [h.stored_iff]
    have hne : other ∈ taken → other ≠ key := by
      rintro hother rfl
      exact List.disjoint_of_nodup_append h.turnsDiffer hother hwaits
    simp only [List.mem_append, List.mem_singleton, not_or]
    tauto
  · exact List.nodup_append_comm.mp (List.nodup_cons.mpr
      ⟨fun hskipped => (h.skipped hskipped).1 hwaits, h.skippedDiffer⟩)
  · intro other hother
    rcases List.mem_append.mp hother with hother | hother
    · obtain ⟨hnot, hroot, hmissing⟩ := h.skipped hother
      exact ⟨fun hmem => hnot (hqueue ▸ List.mem_cons_of_mem _ hmem), hroot, hmissing⟩
    · cases List.mem_singleton.mp hother
      exact ⟨hrest, hroot, hmissing⟩

/-- The turn of a key whose document is there. -/
theorem Sound.accept {key : String} {rest : List String} {document : Json}
    (h : Sound look taken l) (hqueue : l.queue = key :: rest) :
    Sound look (taken ++ [key]) ({ l with queue := rest }.accept key document) := by
  have hkeys : taken ++ [key] ++ rest = taken ++ l.queue := by
    rw [hqueue, List.append_assoc, List.singleton_append]
  have hwaits : key ∈ l.queue := hqueue ▸ List.mem_cons_self
  have hskipped : key ∉ l.skipped := fun hmem => (h.skipped hmem).1 hwaits
  have hnew := h.get?_of_mem_queue hwaits
  have hmono : ∀ {other : String}, ReflTransGen l.store.RefersTo l.root other →
      ReflTransGen (l.store.insert key document).RefersTo l.root other :=
    ReflTransGen.mono (fun _ _ htells => htells.insert document hnew) _ _
  have hstored : (l.store.insert key document).get? key = some document := Entries.get?_put_self
  have hseen : key ∈ l.seen := h.mem_seen_iff.mpr (.inl (List.mem_append_right _ hwaits))
  rw [accept_eq]
  refine Sound.discoverAll
    ⟨?_, ?_, ?_, ?_, fun hmem => hmono (h.reached hmem), h.skippedDiffer, ?_⟩ ?_
  · rw [hkeys]
    exact h.turnsDiffer
  · rw [hkeys]
    exact h.root
  · intro other
    rw [hkeys]
    exact h.mem_seen_iff
  · intro other
    by_cases hother : other = key
    · rw [hother]
      exact ⟨fun _ => ⟨by simp, hskipped⟩, fun _ => ⟨document, hstored⟩⟩
    · have hget : (l.store.insert key document).get? other = l.store.get? other :=
        Entries.get?_put_of_ne hother
      simp only [hget, h.stored_iff, List.mem_append, List.mem_singleton, hother, or_false]
  · intro other hother
    obtain ⟨hnot, hroot, hmissing⟩ := h.skipped hother
    exact ⟨fun hmem => hnot (hqueue ▸ List.mem_cons_of_mem _ hmem), hroot, hmissing⟩
  · intro reference hreference
    exact (hmono (h.reached hseen)).tail
      ⟨document, reference, hstored, Json.mem_references_iff.mp hreference, rfl⟩

/-- Whatever a document tells has been told once it is stored. -/
theorem Closed.accept {key : String} (h : l.Closed) (document : Json) :
    (l.accept key document).Closed := by
  rintro source target ⟨found, reference, hget, hrefers, rfl⟩
  rw [accept_eq, store_discoverAll] at hget
  rw [accept_eq, mem_seen_discoverAll]
  by_cases hsource : source = key
  · subst hsource
    cases Option.some.inj (Entries.get?_put_self.symm.trans hget)
    exact .inr ⟨reference, Json.mem_references_iff.mpr hrefers, rfl⟩
  · have hget := (Entries.get?_put_of_ne hsource).symm.trans hget
    exact .inl (h ⟨found, reference, hget, hrefers, rfl⟩)

/-- A turn, where the file is there and has a document. -/
theorem turn_of_text {key path content : String} {document : Json}
    (hpath : DocumentKey.path key = .ok path) (htext : look path = .text content)
    (hdocument : documentOfText .any path content = .ok document) :
    turn look l key = .ok (l.accept key document) := by
  simp only [turn, hpath, Except.mapError, Except.bind, bind, htext, hdocument]

/-- A turn, where there is no file. -/
theorem turn_of_absent {key path : String} (hpath : DocumentKey.path key = .ok path)
    (habsent : look path = .absent) (hroot : key ≠ l.root) :
    turn look l key = .ok (l.skip key) := by
  simp only [turn, hpath, Except.mapError, Except.bind, bind, habsent, if_neg hroot]

/-- **A turn keeps loading sound and closed.** -/
theorem Sound.turn {key : String} {rest : List String} (h : Sound look taken l) (hclosed : l.Closed)
    (hqueue : l.queue = key :: rest) (hturn : turn look { l with queue := rest } key = .ok next) :
    Sound look (taken ++ [key]) next ∧ next.Closed := by
  obtain ⟨path, hpath, hturn⟩ := ok_of_bind hturn
  have hpath := ok_of_mapError hpath
  split at hturn
  · next hmissing =>
    split at hturn
    · cases hturn
    · next hroot =>
      cases hturn
      exact ⟨h.skip hqueue hroot (.inr ⟨path, hpath, hmissing⟩), hclosed⟩
  · cases hturn
  · obtain ⟨document, -, hturn⟩ := ok_of_bind hturn
    cases hturn
    have hclosed' : { l with queue := rest }.Closed := hclosed
    exact ⟨h.accept hqueue, hclosed'.accept document⟩

/-! ## 3. All turns -/

/-- Turns until no key waits or one fails, with the keys that have had one, and how it ends.  What
is found under the path of a key is looked for when its turn comes, and at no other time. -/
inductive Ends (look : String → FileState) :
    Loading → List String → Except LoadFailure Loading → Prop
  | done {l : Loading} (hqueue : l.queue = []) : Ends look l [] (.ok l)
  | fault {l : Loading} {key : String} {rest : List String} {failure : LoadFailure}
      (hqueue : l.queue = key :: rest)
      (hturn : turn look { l with queue := rest } key = .error failure) :
      Ends look l [key] (.error failure)
  | turn {l next : Loading} {key : String} {rest keys : List String}
      {result : Except LoadFailure Loading} (hqueue : l.queue = key :: rest)
      (hturn : turn look { l with queue := rest } key = .ok next) (h : Ends look next keys result) :
      Ends look l (key :: keys) result

/-- A turn looks under the path of its key only. -/
theorem turn_congr {look' : String → FileState} {key : String}
    (h : ∀ path, DocumentKey.path key = .ok path → look path = look' path) :
    turn look l key = turn look' l key := by
  rw [turn, turn]
  cases hpath : DocumentKey.path key with
  | error fault => rfl
  | ok path => simp only [Except.mapError, bind, Except.bind, h path hpath]

section Run

variable {m : Type → Type} [Monad m] {ask : String → m FileState} {keys : List String}
  {result : Except LoadFailure Loading}

/-- What comes next where nothing happens but that one is told what is found. -/
theorem step_of_pure (hpure : ∀ {α β : Type} (a : α) (f : α → m β), pure a >>= f = f a)
    (hask : ∀ path, ask path = pure (look path)) {key : String} {rest : List String}
    (hqueue : l.queue = key :: rest) :
    step ask l = pure (match turn look { l with queue := rest } key with
      | .ok next => .inl next
      | .error failure => .inr (.error failure)) := by
  rw [step, hqueue]
  have hfound : ∀ found, (∀ path, DocumentKey.path key = .ok path → look path = found) →
      turn (fun _ => found) { l with queue := rest } key
        = turn look { l with queue := rest } key :=
    fun found hpath => turn_congr fun path h => (hpath path h).symm
  cases hpath : DocumentKey.path key with
  | error fault =>
    simp only [hpath, hpure]
    rw [hfound .absent fun path h => by rw [hpath] at h; cases h]
    cases turn look { l with queue := rest } key <;> rfl
  | ok path =>
    simp only [hpath, hask, hpure]
    rw [hfound (look path) fun path' h => by cases hpath.symm.trans h; rfl]
    cases turn look { l with queue := rest } key <;> rfl

/-- **Turns until they end are what is run**, whatever else may happen in between, if it is not that
what is found changes. -/
theorem run_of_ends (hpure : ∀ {α β : Type} (a : α) (f : α → m β), pure a >>= f = f a)
    (hloop : ∀ l, run ask l = repeatM.body (step ask) (run ask) l)
    (hask : ∀ path, ask path = pure (look path)) (h : Ends look l keys result) :
    run ask l = pure result := by
  induction h with
  | done hqueue =>
    rw [hloop, repeatM.body, step, hqueue]
    exact hpure _ _
  | fault hqueue hturn =>
    rw [hloop, repeatM.body, step_of_pure hpure hask hqueue, hturn]
    exact hpure _ _
  | turn hqueue hturn _ ih =>
    rw [hloop, repeatM.body, step_of_pure hpure hask hqueue, hturn]
    exact (hpure _ _).trans ih

end Run

/-- The first document stays the first. -/
theorem root_turn {key : String} (h : turn look l key = .ok next) : next.root = l.root := by
  obtain ⟨path, -, h⟩ := ok_of_bind h
  split at h
  · split at h
    · cases h
    · cases h
      rfl
  · cases h
  · obtain ⟨document, -, h⟩ := ok_of_bind h
    cases h
    rw [accept_eq, root_discoverAll]

theorem Ends.root_eq {keys : List String} {last : Loading} (h : Ends look l keys (.ok last)) :
    last.root = l.root := by
  generalize hresult : Except.ok last = result at h
  induction h with
  | done => cases hresult; rfl
  | fault => cases hresult
  | turn _ hturn _ ih =>
    have hnext := root_turn hturn
    exact (ih hresult).trans hnext

/-- Loading at its end: no key waits. -/
structure Finished (look : String → FileState) (keys : List String) (l : Loading) : Prop
    extends Sound look keys l where
  closed : l.Closed
  queue : l.queue = []

/-- **All turns keep loading sound and closed.** -/
theorem Sound.ends {keys : List String} {last : Loading} (hends : Ends look l keys (.ok last))
    (h : Sound look taken l) (hclosed : l.Closed) : Finished look (taken ++ keys) last := by
  generalize hresult : Except.ok last = result at hends
  induction hends generalizing taken with
  | done hqueue =>
    cases hresult
    rw [List.append_nil]
    exact ⟨h, hclosed, hqueue⟩
  | fault => cases hresult
  | @turn l next key rest keys result hqueue hturn _ ih =>
    obtain ⟨h', hclosed'⟩ := h.turn hclosed hqueue hturn
    rw [← List.singleton_append, ← List.append_assoc]
    exact ih h' hclosed' hresult

namespace Finished

variable {keys : List String}

/-- No key has two turns. -/
theorem nodup (h : Finished look keys l) : keys.Nodup := h.turnsDiffer.of_append_left

theorem stored_or_skipped (h : Finished look keys l) {key : String} (hseen : key ∈ l.seen) :
    (∃ document, l.store.get? key = some document) ∨ key ∈ l.skipped := by
  rw [h.stored_iff]
  rcases h.mem_seen_iff.mp hseen with htaken | hskipped
  · rw [h.queue, List.append_nil] at htaken
    by_cases hskipped : key ∈ l.skipped
    · exact .inr hskipped
    · exact .inl ⟨htaken, hskipped⟩
  · exact .inr hskipped

/-- The root has been loaded. -/
theorem stored_root (h : Finished look keys l) :
    ∃ document, l.store.get? l.root = some document := by
  rcases h.stored_or_skipped (h.mem_seen_iff.mpr (.inl h.root)) with hstored | hskipped
  · exact hstored
  · exact absurd rfl (h.skipped hskipped).2.1

/-- Whatever has been loaded can be reached from the root. -/
theorem reached_of_stored (h : Finished look keys l) {key : String} {document : Json}
    (hget : l.store.get? key = some document) : ReflTransGen l.store.RefersTo l.root key :=
  h.reached (h.mem_seen_iff.mpr (.inl (List.mem_append_left _ (h.stored_iff.mp ⟨_, hget⟩).1)))

/-- **Whatever a document refers to has been loaded, or cannot be.** -/
theorem stored_or_missing (h : Finished look keys l) {key target : String}
    (hrefers : l.store.RefersTo key target) :
    (∃ document, l.store.get? target = some document) ∨ DocumentKey.Missing look target :=
  (h.stored_or_skipped (h.closed hrefers)).imp id fun hskipped => (h.skipped hskipped).2.2

/-- What has been skipped is what documents refer to and what has not been loaded. -/
theorem mem_skipped_iff (h : Finished look keys l) {target : String} :
    target ∈ l.skipped ↔
      (∃ key, l.store.RefersTo key target) ∧ l.store.get? target = none := by
  constructor
  · intro hskipped
    have hreached := h.reached (h.mem_seen_iff.mpr (.inr hskipped))
    refine ⟨?_, ?_⟩
    · rcases ReflTransGen.cases_tail hreached with heq | ⟨key, -, hrefers⟩
      · exact absurd heq (h.skipped hskipped).2.1
      · exact ⟨key, hrefers⟩
    · cases hget : l.store.get? target with
      | none => rfl
      | some document => exact absurd hskipped (h.stored_iff.mp ⟨document, hget⟩).2
  · rintro ⟨⟨key, hrefers⟩, hnone⟩
    rcases h.stored_or_skipped (h.closed hrefers) with ⟨document, hget⟩ | hskipped
    · rw [hnone] at hget
      cases hget
    · exact hskipped

end Finished

end Loading

end SchemaMock
