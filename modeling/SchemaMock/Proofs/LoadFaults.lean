/-
# Where loading fails

Once the first document is there, loading has nothing to fail for but the keys that documents tell.
`DocumentKey.Stops` says which keys those are, and with which fault: a key whose file is there but
cannot be read, or has no document in it, and a key that is meant to be a file and has no path,
being no URL or the URL of a file on another machine.

* A turn that fails does so for such a key (`turn_error_cases`).
* So loading fails for a key that the files lead to (`Ends.stops`), and if it comes to its end,
  there was no such key (`Finished.not_stops`).
* Whatever else is told is skipped and counts as missing (`loading_fails_where_files_lead`).
-/
import SchemaMock.Proofs.Dangling

namespace SchemaMock

open Relation (ReflTransGen)

/-! ## 1. Keys that stop loading -/

namespace DocumentKey

/-- The file of a key is there, but it cannot be read, or it has no document in it. -/
def Breaks (look : String → FileState) (key : String) (fault : LoadFault) : Prop :=
  ∃ path, DocumentKey.path key = .ok path ∧ (look path = .unreadable ∧ fault = .unreadable path ∨
    ∃ text, look path = .text text ∧ documentOfText .any path text = .error fault)

/-- Why a key cannot be loaded, although it is not missing. -/
inductive Stops (look : String → FileState) (key : String) : LoadFault → Prop
  | invalid (hurl : Url.read? none key.toList = none) : Stops look key (.invalidKey key)
  | foreign {url : Url} (hurl : Url.read? none key.toList = some url) (hfile : url.toFile? = none) :
      Stops look key (.foreignKey key)
  | unreadable {path : String} (hpath : DocumentKey.path key = .ok path)
      (hlook : look path = .unreadable) : Stops look key (.unreadable path)
  | malformed {path text : String} (hpath : DocumentKey.path key = .ok path)
      (htext : look path = .text text)
      (hread : (DocumentFormat.ofPath path).read? .any text = none) :
      Stops look key (.malformed (.ofPath path) path)

variable {look : String → FileState} {key : String} {fault : LoadFault}

/-- A key without a path is no URL, or its file is elsewhere. -/
theorem stops_of_path_error (h : DocumentKey.path key = .error fault) : Stops look key fault := by
  rw [DocumentKey.path] at h
  split at h
  · next hurl =>
    cases h
    exact .invalid hurl
  · next url hurl =>
    split at h
    · next hfile =>
      cases h
      exact .foreign hurl hfile
    · cases h

/-- A file that breaks stops loading. -/
theorem Breaks.stops (h : Breaks look key fault) : Stops look key fault := by
  obtain ⟨path, hpath, ⟨hlook, rfl⟩ | ⟨text, htext, h⟩⟩ := h
  · exact .unreadable hpath hlook
  · simp only [documentOfText] at h
    split at h
    · cases h
    · next hread =>
      cases h
      exact .malformed hpath htext hread

/-- A key that stops loading has no path, or its file breaks. -/
theorem Stops.cases_path (h : Stops look key fault) :
    DocumentKey.path key = .error fault ∨ Breaks look key fault := by
  cases h with
  | invalid hurl => exact .inl (by rw [DocumentKey.path, hurl])
  | foreign hurl hfile => exact .inl (by rw [DocumentKey.path, hurl]; simp only [hfile])
  | unreadable hpath hlook => exact .inr ⟨_, hpath, .inl ⟨hlook, rfl⟩⟩
  | malformed hpath htext hread =>
    exact .inr ⟨_, hpath, .inr ⟨_, htext, by simp only [documentOfText, hread]⟩⟩

/-- What can be loaded stops nothing. -/
theorem Holds.not_stops {document : Json} (h : Holds look key document) :
    ¬ Stops look key fault := by
  intro hstops
  obtain ⟨path, text, hpath, htext, hdocument⟩ := h
  rcases hstops.cases_path with hpath' | ⟨path', hpath', hlook⟩
  · cases hpath.symm.trans hpath'
  · cases hpath.symm.trans hpath'
    rcases hlook with ⟨hlook, -⟩ | ⟨text', htext', hdocument'⟩
    · cases htext.symm.trans hlook
    · cases htext.symm.trans htext'
      cases hdocument.symm.trans hdocument'

/-- What is missing stops nothing. -/
theorem not_stops_of_absent {path : String} (hpath : DocumentKey.path key = .ok path)
    (habsent : look path = .absent) : ¬ Stops look key fault := by
  intro hstops
  rcases hstops.cases_path with hpath' | ⟨path', hpath', hlook⟩
  · cases hpath.symm.trans hpath'
  · cases hpath.symm.trans hpath'
    rcases hlook with ⟨hlook, -⟩ | ⟨text, htext, -⟩
    · cases habsent.symm.trans hlook
    · cases habsent.symm.trans htext

end DocumentKey

open DocumentKey (Breaks Holds Leads Stops)

/-! ## 2. Turns and all turns -/

namespace Loading

variable {look : String → FileState} {l : Loading} {key : String}

/-- A turn fails for a key that stops loading, or for a first document that is not there. -/
theorem turn_error_cases {failure : LoadFailure} (h : turn look l key = .error failure) :
    Stops look key failure.fault ∨
      key = l.root ∧ ∃ path, DocumentKey.path key = .ok path ∧ look path = .absent := by
  rw [turn] at h
  cases hpath : DocumentKey.path key with
  | error fault =>
    rw [hpath] at h
    cases h
    exact .inl (DocumentKey.stops_of_path_error hpath)
  | ok path =>
    simp only [hpath, Except.mapError, bind, Except.bind] at h
    split at h
    · next habsent =>
      split at h
      · next hroot => exact .inr ⟨hroot, path, rfl, habsent⟩
      · cases h
    · next hlook =>
      cases h
      exact .inl (.unreadable hpath hlook)
    · next text htext =>
      cases hdocument : documentOfText .any path text with
      | error fault =>
        rw [hdocument] at h
        cases h
        exact .inl (Breaks.stops ⟨path, hpath, .inr ⟨text, htext, hdocument⟩⟩)
      | ok document =>
        rw [hdocument] at h
        cases h

/-- **Loading fails for a key that the files lead to.** -/
theorem Ends.stops {root : String} {document : Json} {keys : List String} {failure : LoadFailure}
    (hends : Ends look l keys (.error failure)) (hroot : Holds look root document)
    (h : Follows look root l) :
    ∃ key, ReflTransGen (Leads look) root key ∧ Stops look key failure.fault := by
  generalize hresult : Except.error failure = result at hends
  induction hends with
  | done => cases hresult
  | @fault l key rest failure' hqueue hturn =>
    cases hresult
    refine ⟨key, h.queue key (hqueue ▸ List.mem_cons_self), ?_⟩
    rcases turn_error_cases hturn with hstops | ⟨hkey, path, hpath, habsent⟩
    · exact hstops
    · -- the first document is there
      obtain ⟨path', text, hpath', htext, -⟩ := hroot
      have hkey : key = root := hkey.trans h.root_eq
      cases hpath.symm.trans (hkey ▸ hpath')
      cases habsent.symm.trans htext
  | turn hqueue hturn _ ih =>
    have hnext := h.turn hqueue hturn
    exact ih hnext hresult

/-- Where loading has come to its end, whatever the files lead to has been stored, or its file is
not there. -/
theorem Finished.holds_or_absent {root : String} {keys : List String} (h : Finished look keys l)
    (hfollows : Follows look root l) (hreached : ReflTransGen (Leads look) root key) :
    (∃ document, l.store.get? key = some document) ∨
      ∃ path, DocumentKey.path key = .ok path ∧ look path = .absent := by
  induction hreached with
  | refl => exact .inl (hfollows.root_eq ▸ h.stored_root)
  | tail _ hleads ih =>
    obtain ⟨hfile, document, reference, hholds, hrefers, htold⟩ := hleads
    rcases ih with ⟨stored, hstored⟩ | ⟨path, hpath, habsent⟩
    · cases (hfollows.store _ _ hstored).unique hholds
      rcases h.stored_or_missing ⟨_, reference, hstored, hrefers, htold⟩ with hstored | hmissing
      · exact .inl hstored
      · refine .inr (hmissing.resolve_left fun hnot => ?_)
        rw [hfile] at hnot
        cases hnot
    · -- what is not there has no references
      obtain ⟨path', text, hpath', htext, -⟩ := hholds
      cases hpath.symm.trans hpath'
      cases habsent.symm.trans htext

/-- **Where loading comes to its end, the files lead to no key that could stop it.** -/
theorem Finished.not_stops {root : String} {keys : List String} {fault : LoadFault}
    (h : Finished look keys l) (hfollows : Follows look root l)
    (hreached : ReflTransGen (Leads look) root key) : ¬ Stops look key fault := by
  rcases h.holds_or_absent hfollows hreached with ⟨document, hstored⟩ | ⟨path, hpath, habsent⟩
  · exact (hfollows.store _ _ hstored).not_stops
  · exact DocumentKey.not_stops_of_absent hpath habsent

end Loading

/-! ## 3. Missing documents -/

/-- A reference into a document that is not there leads to a schema that says nothing, and is
reported. -/
theorem outcome_targetSchema_of_missing {env : Environment} {reference : String} {site : Site}
    (h : env.store.get? (env.target reference).documentKey = none) (trace : Trace) :
    (targetSchema env reference (Reference.read reference env.documentKey) site).outcome trace
      = (.ok ⟨.empty, site, some (Reference.read reference env.documentKey).name⟩,
          { trace with events := trace.events ++
              [.unresolved reference (env.target reference).documentKey] }) := by
  have hat : env.store.at? ((Reference.read reference env.documentKey).document env.documentKey)
      (Reference.read reference env.documentKey).segments = none := by
    rw [DocumentStore.at?]
    exact congrArg (Option.bind · _) h
  simp only [targetSchema, hat]
  rfl

/-- **Loading fails for what the files lead to, and for nothing else.**  Let the first document be
there.  A tree of files is loaded in as many turns as it takes.  If loading ends with a fault, then
the files lead to a key that stops loading, and the fault is the one for which that key does: a file
that is there cannot be read or has no document in it, or the key is meant to be a file and is none
of this machine, or no URL.  So where every key that the files lead to has a path, loading fails
only for a file that is there.  If loading comes to its end, the files led to no such key; whatever
else a document told has been skipped, as it means no file or there is none, and a reference to it
leads to a schema that says nothing, and is reported. -/
theorem loading_fails_where_files_lead {look : String → FileState} {root : String}
    {document : Json} (hroot : Holds look root document) :
    (∀ (tree : FileTree) (input : String) (way : List String), tree.look = look →
      tree.find? input = some way → DocumentKey.ofWay way = root →
      (∀ result, tree.load input = result ↔
        ∃ keys, Loading.Ends look (.start root) keys result) ∧
      ((∃ failure, tree.load input = .error failure) ↔
        ∃ key fault, ReflTransGen (Leads look) root key ∧ Stops look key fault)) ∧
    (∀ (keys : List String) (failure : LoadFailure),
      Loading.Ends look (.start root) keys (.error failure) →
      (∃ key, ReflTransGen (Leads look) root key ∧ Stops look key failure.fault) ∧
      ((∀ key, ReflTransGen (Leads look) root key → ∃ path, DocumentKey.path key = .ok path) →
        ∃ key, ReflTransGen (Leads look) root key ∧ Breaks look key failure.fault)) ∧
    ∀ (keys : List String) (l : Loading), Loading.Ends look (.start root) keys (.ok l) →
      (∀ key fault, ReflTransGen (Leads look) root key → ¬ Stops look key fault) ∧
      ∀ key target, l.store.RefersTo key target → l.store.get? target = none →
        target ∈ l.skipped ∧ DocumentKey.Missing look target ∧
          ∀ (env : Environment) (reference : String) (site : Site) (trace : Trace),
            env.store = l.store → (env.target reference).documentKey = target →
            (targetSchema env reference (Reference.read reference env.documentKey) site).outcome
                trace
              = (.ok ⟨.empty, site, some (Reference.read reference env.documentKey).name⟩,
                  { trace with events := trace.events ++ [.unresolved reference target] }) := by
  have herror : ∀ {keys : List String} {failure : LoadFailure},
      Loading.Ends look (.start root) keys (.error failure) →
      ∃ key, ReflTransGen (Leads look) root key ∧ Stops look key failure.fault :=
    fun hends => hends.stops hroot (Loading.follows_start look root)
  have hdone : ∀ {keys : List String} {l : Loading},
      Loading.Ends look (.start root) keys (.ok l) → Loading.Finished look keys l :=
    fun hends => (Loading.sound_start look root).ends hends (Loading.closed_start root)
  have hok : ∀ {keys : List String} {l : Loading},
      Loading.Ends look (.start root) keys (.ok l) →
      ∀ key fault, ReflTransGen (Leads look) root key → ¬ Stops look key fault :=
    fun hends _ _ => (hdone hends).not_stops (hends.follows (Loading.follows_start look root))
  refine ⟨?_, fun keys failure hends => ⟨herror hends, fun hpaths => ?_⟩,
    fun keys l hends => ⟨hok hends, ?_⟩⟩
  · rintro tree input way rfl hinput rfl
    refine ⟨fun result => FileTree.load_eq_iff hinput, ?_⟩
    constructor
    · rintro ⟨failure, hload⟩
      obtain ⟨keys, hends⟩ := (FileTree.load_eq_iff hinput).mp hload
      obtain ⟨key, hreached, hstops⟩ := herror hends
      exact ⟨key, _, hreached, hstops⟩
    · rintro ⟨key, fault, hreached, hstops⟩
      cases hload : tree.load input with
      | error failure => exact ⟨failure, rfl⟩
      | ok l =>
        obtain ⟨keys, hends⟩ := (FileTree.load_eq_iff hinput).mp hload
        exact absurd hstops (hok hends key fault hreached)
  · obtain ⟨key, hreached, hstops⟩ := herror hends
    obtain ⟨path, hpath⟩ := hpaths key hreached
    refine ⟨key, hreached, hstops.cases_path.resolve_left fun hnone => ?_⟩
    cases hpath.symm.trans hnone
  · intro key target hrefers hnone
    refine ⟨(hdone hends).mem_skipped_iff.mpr ⟨⟨key, hrefers⟩, hnone⟩,
      ((hdone hends).stored_or_missing hrefers).resolve_left (by simp [hnone]), ?_⟩
    rintro env reference site trace hstore rfl
    exact outcome_targetSchema_of_missing (hstore ▸ hnone) trace

/-- A file that refers to a file on another machine. -/
def farText : String := "\x7b\"$ref\": \"file://far/x.json#/a\"\x7d"

/-- That file alone. -/
def farTree : FileTree := ⟨[(["api.json"], some farText)]⟩

theorem holds_far :
    Holds farTree.look "file:///api.json" (referenceNode "file://far/x.json#/a") :=
  ⟨"/api.json", farText, rfl, rfl, by with_unfolding_all rfl⟩

theorem path_far :
    DocumentKey.path "file://far/x.json" = .error (.foreignKey "file://far/x.json") :=
  rfl

theorem ends_far : Loading.Ends farTree.look (.start "file:///api.json")
    ["file:///api.json", "file://far/x.json"]
    (.error ⟨.foreignKey "file://far/x.json", []⟩) := by
  obtain ⟨path, text, hpath, htext, hdocument⟩ := holds_far
  exact .turn rfl (Loading.turn_of_text hpath htext hdocument) (.fault rfl rfl)

/-- The file leads to the other machine, and no further. -/
theorem reached_far {key : String}
    (h : ReflTransGen (Leads farTree.look) "file:///api.json" key) :
    key = "file:///api.json" ∨ key = "file://far/x.json" := by
  induction h with
  | refl => exact .inl rfl
  | tail _ hleads ih =>
    obtain ⟨-, document, reference, hholds, hrefers, rfl⟩ := hleads
    rcases ih with rfl | rfl
    · cases hholds.unique holds_far
      have hreference := Json.mem_references_iff.mpr hrefers
      cases List.mem_singleton.mp hreference
      exact .inr rfl
    · obtain ⟨path, -, hpath, -⟩ := hholds
      cases path_far.symm.trans hpath

theorem load_far :
    farTree.load "/api.json" = .error ⟨.foreignKey "file://far/x.json", []⟩ := by
  have hinput : farTree.find? "/api.json" = some ["api.json"] := rfl
  exact FileTree.load_eq_of_ends hinput ends_far

/-- A file that refers to another one, which holds no text. -/
def lockedTree : FileTree :=
  ⟨[(["api.json"], some "\x7b\"$ref\": \"lib.json\"\x7d"), (["lib.json"], none)]⟩

theorem holds_locked :
    Holds lockedTree.look "file:///api.json" (referenceNode "lib.json") :=
  ⟨"/api.json", _, rfl, rfl, by with_unfolding_all rfl⟩

theorem ends_locked : Loading.Ends lockedTree.look (.start "file:///api.json")
    ["file:///api.json", "file:///lib.json"] (.error ⟨.unreadable "/lib.json", []⟩) := by
  obtain ⟨path, text, hpath, htext, hdocument⟩ := holds_locked
  exact .turn rfl (Loading.turn_of_text hpath htext hdocument) (.fault rfl rfl)

theorem loading_fails_where_files_lead_far :
    farTree.load "/api.json" = .error ⟨.foreignKey "file://far/x.json", []⟩ ∧
      Holds farTree.look "file:///api.json" (referenceNode "file://far/x.json#/a") ∧
      (∃ key, ReflTransGen (Leads farTree.look) "file:///api.json" key ∧
        Stops farTree.look key (.foreignKey "file://far/x.json")) ∧
      lockedTree.load "/api.json" = .error ⟨.unreadable "/lib.json", []⟩ ∧
      ∃ key, ReflTransGen (Leads lockedTree.look) "file:///api.json" key ∧
        Stops lockedTree.look key (.unreadable "/lib.json") :=
  ⟨load_far, holds_far, ((loading_fails_where_files_lead holds_far).2.1 _ _ ends_far).1,
    (((loading_fails_where_files_lead holds_locked).1 lockedTree "/api.json" ["api.json"]
      rfl rfl rfl).1 _).mpr ⟨_, ends_locked⟩,
    ((loading_fails_where_files_lead holds_locked).2.1 _ _ ends_locked).1⟩

/-- **Loading can fail although every file that is there has a document in it.**  It is not so that
loading fails, once the first document is there, only for a file that is there and cannot be read or
has no document in it: it fails for a reference to a file on another machine as well. -/
theorem loading_fails_for_another_machine :
    ¬ ∀ (tree : FileTree) (input : String) (way : List String) (document : Json)
      (failure : LoadFailure), tree.find? input = some way →
      Holds tree.look (DocumentKey.ofWay way) document → tree.load input = .error failure →
      ∃ key fault, ReflTransGen (Leads tree.look) (DocumentKey.ofWay way) key ∧
        Breaks tree.look key fault := by
  intro hclaim
  obtain ⟨key, fault, hreached, hbreaks⟩ :=
    hclaim farTree "/api.json" ["api.json"] _ _ rfl holds_far load_far
  rcases reached_far hreached with rfl | rfl
  · exact holds_far.not_stops hbreaks.stops
  · obtain ⟨path, hpath, -⟩ := hbreaks
    cases path_far.symm.trans hpath

end SchemaMock
