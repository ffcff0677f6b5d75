/-
# Loading comes to an end

A file can refer to itself by ever longer ways, so the keys that documents tell are not always
finitely many, and with every key there is a turn.  What ends the loading is that the system takes
no path of any length (`BoundedFiles`).

* `DocumentKey.Leads` says which keys are told, by the files alone and without any loading.  Loading
  goes nowhere else (`Follows.turn`), so it ends where the files lead to finitely many documents:
  with every turn that stores one, fewer are left, and a turn that stores none leaves fewer keys
  waiting (`Sound.exists_ends`).
* A key that the files lead to is one of finitely many, or the URL of a file on no host with one of
  finitely many queries (`Shaped`).  Such a URL is hardly longer than the path of its file
  (`exists_length_le`).

So the files lead to finitely many documents (`BoundedFiles.finite_documents`), and a tree of files
is loaded in as many turns as it takes (`FileTree.load_eq_iff`).
-/
import Mathlib.Data.FinEnum
import Mathlib.Data.Set.Card
import Mathlib.Data.Set.Finite.List
import Mathlib.Order.CompletePartialOrder
import SchemaMock.Proofs.Closure
import SchemaMock.Proofs.FileUrls

namespace SchemaMock

open Relation (ReflTransGen)

/-! ## 1. What files say -/

namespace DocumentKey

/-- The file of a key is there, and this is its document. -/
def Holds (look : String → FileState) (key : String) (document : Json) : Prop :=
  ∃ path text, DocumentKey.path key = .ok path ∧ look path = .text text ∧
    documentOfText .any path text = .ok document

/-- The document of a key has a reference to the document of another one, which is meant to be a
file. -/
def Leads (look : String → FileState) (key target : String) : Prop :=
  isFile target = true ∧ ∃ document reference, Holds look key document ∧
    document.Refers reference ∧ (Target.told reference key).documentKey = target

/-- The keys with a document that the files lead to. -/
def Documents (look : String → FileState) (root : String) : Set String :=
  {key | ReflTransGen (Leads look) root key ∧ ∃ document, Holds look key document}

variable {look : String → FileState} {key : String}

theorem Holds.unique {document document' : Json} (h : Holds look key document)
    (h' : Holds look key document') : document = document' := by
  obtain ⟨path, text, hpath, htext, hdocument⟩ := h
  obtain ⟨path', text', hpath', htext', hdocument'⟩ := h'
  cases hpath.symm.trans hpath'
  cases htext.symm.trans htext'
  exact Except.ok.inj (hdocument.symm.trans hdocument')

/-- The path of a key is that of a URL. -/
theorem url_of_path {path : String} (h : DocumentKey.path key = .ok path) :
    ∃ url file, Url.read? none key.toList = some url ∧ url.toFile? = some file ∧
      String.ofList file = path := by
  rw [DocumentKey.path] at h
  split at h
  · cases h
  · next url hurl =>
    split at h
    · cases h
    · next file hfile =>
      cases h
      exact ⟨url, file, hurl, hfile, rfl⟩

end DocumentKey

open DocumentKey (Holds Leads Documents)

/-! ## 2. Loading goes where files lead -/

namespace Loading

variable {look : String → FileState} {l next : Loading} {key : String}

/-- A turn that does not fail stores the document of its key, or skips the key. -/
theorem turn_ok_cases (h : turn look l key = .ok next) :
    (∃ document, Holds look key document ∧ next = l.accept key document) ∨
      ∃ path, DocumentKey.path key = .ok path ∧ look path = .absent ∧ next = l.skip key := by
  obtain ⟨path, hpath, h⟩ := ok_of_bind h
  have hpath := ok_of_mapError hpath
  split at h
  · next habsent =>
    split at h
    · cases h
    · cases h
      exact .inr ⟨path, hpath, habsent, rfl⟩
  · cases h
  · next text htext =>
    obtain ⟨document, hdocument, h⟩ := ok_of_bind h
    cases h
    exact .inl ⟨document, ⟨path, text, hpath, htext, ok_of_mapError hdocument⟩, rfl⟩

/-- A key that waits after a discovery waited before, or is the key of the reference, which then is
meant to be a file. -/
theorem mem_queue_discover {current reference other : String}
    (h : other ∈ (l.discover current reference).queue) :
    other ∈ l.queue ∨
      DocumentKey.isFile other = true ∧ (Target.told reference current).documentKey = other := by
  simp only [discover, ← show (Target.told reference current).documentKey
    = (Reference.read reference current).document current from rfl] at h
  split at h
  · exact .inl h
  · split at h
    · next hfile =>
      rcases List.mem_append.mp h with h | h
      · exact .inl h
      · cases List.mem_singleton.mp h
        exact .inr ⟨hfile, rfl⟩
    · exact .inl h

theorem mem_queue_discoverAll {current other : String} {references : List String}
    (h : other ∈ (l.discoverAll current references).queue) :
    other ∈ l.queue ∨ DocumentKey.isFile other = true ∧
      ∃ reference ∈ references, (Target.told reference current).documentKey = other := by
  induction references generalizing l with
  | nil => exact .inl h
  | cons reference rest ih =>
    rcases ih h with h | ⟨hfile, reference', hmem, htold⟩
    · rcases mem_queue_discover h with h | ⟨hfile, htold⟩
      · exact .inl h
      · exact .inr ⟨hfile, reference, List.mem_cons_self, htold⟩
    · exact .inr ⟨hfile, reference', List.mem_cons_of_mem _ hmem, htold⟩

/-- Loading has told no key to wait that the files do not lead to, and has stored nothing but what
the files hold. -/
structure Follows (look : String → FileState) (root : String) (l : Loading) : Prop where
  root_eq : l.root = root
  queue : ∀ key ∈ l.queue, ReflTransGen (Leads look) root key
  store : ∀ key document, l.store.get? key = some document → Holds look key document

theorem follows_start (look : String → FileState) (root : String) :
    Follows look root (start root) where
  root_eq := rfl
  queue key hkey := by
    cases List.mem_singleton.mp hkey
    exact .refl
  store _ _ hget := by cases hget

/-- A turn goes where the files lead. -/
theorem Follows.turn {root : String} {rest : List String} (h : Follows look root l)
    (hqueue : l.queue = key :: rest) (hturn : turn look { l with queue := rest } key = .ok next) :
    Follows look root next := by
  have hreached : ReflTransGen (Leads look) root key := h.queue key (hqueue ▸ List.mem_cons_self)
  have hrest : ∀ other ∈ rest, ReflTransGen (Leads look) root other :=
    fun other hother => h.queue other (hqueue ▸ List.mem_cons_of_mem _ hother)
  rcases turn_ok_cases hturn with ⟨document, hdocument, rfl⟩ | ⟨path, -, -, rfl⟩
  · rw [accept_eq]
    constructor
    case root_eq => rw [root_discoverAll]; exact h.root_eq
    case queue =>
      intro other hother
      rcases mem_queue_discoverAll hother with hother | ⟨hfile, reference, hmem, htold⟩
      · exact hrest other hother
      · exact hreached.tail
          ⟨hfile, document, reference, hdocument, Json.mem_references_iff.mp hmem, htold⟩
    case store =>
      intro other found hget
      rw [store_discoverAll] at hget
      by_cases hsame : other = key
      · subst hsame
        cases Option.some.inj (Entries.get?_put_self.symm.trans hget)
        exact hdocument
      · exact h.store other found ((Entries.get?_put_of_ne hsame).symm.trans hget)
  · exact ⟨h.root_eq, hrest, h.store⟩

theorem Ends.follows {root : String} {keys : List String} {last : Loading}
    (hends : Ends look l keys (.ok last)) (h : Follows look root l) : Follows look root last := by
  generalize hresult : Except.ok last = result at hends
  induction hends with
  | done => cases hresult; exact h
  | fault => cases hresult
  | turn hqueue hturn _ ih =>
    have hnext := h.turn hqueue hturn
    exact ih hnext hresult

/-! ### Documents that are left -/

/-- The documents that the files lead to and that have not been stored. -/
def left (look : String → FileState) (root : String) (l : Loading) : Set String :=
  {key ∈ Documents look root | l.store.get? key = none}

/-- Fewer documents are left once one more is stored. -/
theorem left_accept_ssubset {root : String} {rest : List String} {document : Json}
    {taken : List String} (h : Sound look taken l) (hfollows : Follows look root l)
    (hqueue : l.queue = key :: rest) (hholds : Holds look key document) :
    left look root ({ l with queue := rest }.accept key document) ⊂ left look root l := by
  have hwaits : key ∈ l.queue := hqueue ▸ List.mem_cons_self
  have hget : ∀ other, ({ l with queue := rest }.accept key document).store.get? other
      = (l.store.insert key document).get? other := fun other => by
    rw [accept_eq, store_discoverAll]
  refine Set.ssubset_iff_of_subset ?_ |>.mpr
    ⟨key, ⟨⟨hfollows.queue key hwaits, document, hholds⟩, h.get?_of_mem_queue hwaits⟩, ?_⟩
  · rintro other ⟨hother, hnone⟩
    refine ⟨hother, ?_⟩
    rw [hget] at hnone
    have hne : other ≠ key := by
      rintro rfl
      cases Entries.get?_put_self.symm.trans hnone
    exact (Entries.get?_put_of_ne hne).symm.trans hnone
  · rintro ⟨-, hnone⟩
    rw [hget] at hnone
    cases Entries.get?_put_self.symm.trans hnone

/-- **Loading ends where the files lead to finitely many documents.** -/
theorem Sound.exists_ends {root : String} (hfinite : (Documents look root).Finite)
    {taken : List String} {l : Loading} (h : Sound look taken l) (hclosed : l.Closed)
    (hfollows : Follows look root l) : ∃ keys result, Ends look l keys result := by
  cases hqueue : l.queue with
  | nil => exact ⟨[], _, .done hqueue⟩
  | cons key rest =>
    cases hturn : Loading.turn look { l with queue := rest } key with
    | error failure => exact ⟨_, _, .fault hqueue hturn⟩
    | ok next =>
      obtain ⟨hsound, hclosed'⟩ := h.turn hclosed hqueue hturn
      obtain ⟨keys, result, hends⟩ :=
        hsound.exists_ends hfinite hclosed' (hfollows.turn hqueue hturn)
      exact ⟨_, _, .turn hqueue hturn hends⟩
termination_by ((left look root l).ncard, l.queue.length)
decreasing_by
  rcases turn_ok_cases hturn with ⟨document, hholds, rfl⟩ | ⟨path, -, -, rfl⟩
  · have hfewer := left_accept_ssubset h hfollows hqueue hholds
    exact .left _ _ (Set.ncard_lt_ncard hfewer (hfinite.subset fun _ hkey => hkey.1))
  · refine .right _ ?_
    rw [hqueue]
    exact Nat.lt_succ_self _

/-- Loading from a first document. -/
theorem exists_ends_start {root : String} (hfinite : (Documents look root).Finite) :
    ∃ keys result, Ends look (start root) keys result :=
  (sound_start look root).exists_ends hfinite (closed_start root) (follows_start look root)

end Loading

/-! ## 3. Bounded files -/

/-- Files such as a system has: it takes no path of any length, and none with the character that
ends its texts, and it holds finitely many texts. -/
structure BoundedFiles (look : String → FileState) : Prop where
  path : ∃ limit, ∀ path, look path ≠ .absent → path.utf8ByteSize ≤ limit ∧ '\x00' ∉ path.toList
  texts : {text | ∃ path, look path = .text text}.Finite

namespace DocumentKey

variable {look : String → FileState} {root key target : String}

/-! ### Keys that are told -/

/-- The references of all documents. -/
def references (look : String → FileState) : Set String :=
  {reference | ∃ key document, Holds look key document ∧ document.Refers reference}

/-- The texts that tell documents, in all references. -/
def tellings (look : String → FileState) : Set (List Char) :=
  (fun reference => (Text.splitFirst '#' reference.toList).1) '' references look

/-- The least of all URLs of files. -/
def someFile : Url.LocalFile where
  segments := [[]]
  query := none
  ne_nil := List.cons_ne_nil _ _
  final := List.forall_mem_singleton.mpr Url.Segments.final_nil
  trimmed := rfl
  queryStays := nofun

/-- What a text tells wherever it stands, if it does not tell a file by a path. -/
def elsewhere (telling : List Char) : List Char :=
  ((Url.read? (some someFile.url) telling).map Url.render).getD telling

/-- The keys that are not told by paths. -/
def fixed (look : String → FileState) (root : String) : Set (List Char) :=
  {root.toList} ∪ (tellings look ∪ elsewhere '' tellings look)

/-- The queries of keys. -/
def queries (look : String → FileState) (root : String) : Set (Option (List Char)) :=
  (fun cs => (Url.read? none cs).bind Url.query) '' fixed look root ∪ Url.ownQuery '' tellings look

/-- A key that the files can tell: one of finitely many, or the URL of a file with one of finitely
many queries. -/
def Shaped (look : String → FileState) (root : String) (cs : List Char) : Prop :=
  cs ∈ fixed look root ∨ ∃ f : Url.LocalFile, f.query ∈ queries look root ∧ f.url.render = cs

/-- A key that is shaped so and has a path is read as the URL of a file with one of the queries. -/
theorem Shaped.exists_localFile (h : Shaped look root key.toList) (hfile : isFile key = true)
    (hmark : '#' ∉ key.toList) {path : String} (hpath : DocumentKey.path key = .ok path) :
    ∃ f : Url.LocalFile, Url.read? none key.toList = some f.url ∧ f.query ∈ queries look root := by
  obtain ⟨url, file, hurl, htoFile, -⟩ := url_of_path hpath
  obtain ⟨f, rfl⟩ := Url.exists_localFile hfile hmark hurl htoFile
  refine ⟨f, hurl, ?_⟩
  rcases h with hfixed | ⟨f₀, hquery, hrender⟩
  · exact .inl ⟨key.toList, hfixed, congrArg (Option.bind · Url.query) hurl⟩
  · obtain ⟨f', hread, hquery', -⟩ := f₀.read?_render
    rw [hrender, hurl] at hread
    have hsame : f.query = f'.query := congrArg Url.query (Option.some.inj hread)
    rw [hsame, hquery']
    exact hquery

/-- **What is told in a document of a file is shaped as the key of the document is.** -/
theorem Shaped.joinChars {f : Url.LocalFile} {telling : List Char}
    (hread : Url.read? none key.toList = some f.url) (hquery : f.query ∈ queries look root)
    (htelling : telling ∈ tellings look) (hmark : '#' ∉ telling) :
    Shaped look root (DocumentKey.joinChars key.toList telling) := by
  simp only [DocumentKey.joinChars, hread]
  cases htold : Url.read? (some f.url) telling with
  | none => exact .inl (.inr (.inl htelling))
  | some told =>
    rcases f.read?_url hmark htold with ⟨f', rfl, hf'⟩ | hany
    · refine .inr ⟨f', ?_, rfl⟩
      rcases hf' with hf' | hf'
      · exact hf' ▸ hquery
      · exact .inr ⟨telling, htelling, hf'.symm⟩
    · refine .inl (.inr (.inr ⟨telling, htelling, ?_⟩))
      rw [elsewhere, hany someFile]
      rfl

theorem told_documentKey (reference current : String) :
    (Target.told reference current).documentKey
      = if (Text.splitFirst '#' reference.toList).1.isEmpty then current
        else String.ofList (joinChars current.toList (Text.splitFirst '#' reference.toList).1) := by
  simp only [Target.told, Reference.document, Reference.read]
  split
  · rfl
  · rw [Option.getD_some, join, String.toList_ofList]

/-- The keys that the files lead to are shaped so, and have no mark in them. -/
theorem shaped_of_leads (hroot : isFile root = true) (hmark : '#' ∉ root.toList)
    (h : ReflTransGen (Leads look) root key) :
    isFile key = true ∧ '#' ∉ key.toList ∧ Shaped look root key.toList := by
  induction h with
  | refl => exact ⟨hroot, hmark, .inl (.inl rfl)⟩
  | @tail key target _ hleads ih =>
    obtain ⟨hfile, hmark, hshaped⟩ := ih
    obtain ⟨hfile', document, reference, hholds, hrefers, rfl⟩ := hleads
    have htelling : (Text.splitFirst '#' reference.toList).1 ∈ tellings look :=
      ⟨reference, ⟨key, document, hholds, hrefers⟩, rfl⟩
    have hmark' : '#' ∉ (Text.splitFirst '#' reference.toList).1 :=
      Text.notMem_splitFirst '#' reference.toList
    obtain ⟨path, -, hpath, -⟩ := hholds
    obtain ⟨f, hread, hquery⟩ := hshaped.exists_localFile hfile hmark hpath
    refine ⟨hfile', ?_⟩
    rw [told_documentKey]
    split
    · exact ⟨hmark, hshaped⟩
    · rw [String.toList_ofList]
      exact ⟨mark_notMem_joinChars hmark hmark', .joinChars hread hquery htelling hmark'⟩

/-! ### They are finitely many -/

instance instFiniteChar : Finite Char := .of_injective Char.val fun _ _ h => Char.ext h

theorem finite_references (h : BoundedFiles look) : (references look).Finite := by
  have hread : ∀ text, {reference | ∃ format : DocumentFormat, ∃ document,
      format.read? .any text = some document ∧ reference ∈ document.references}.Finite := by
    intro text
    have hformat : ∀ format : DocumentFormat, {reference | ∃ document,
        format.read? .any text = some document ∧ reference ∈ document.references}.Finite := by
      intro format
      refine (List.finite_toSet (((format.read? .any text).map Json.references).getD [])).subset ?_
      rintro reference ⟨document, hdocument, hreference⟩
      rw [hdocument]
      exact hreference
    refine ((hformat .json).union (hformat .yaml)).subset ?_
    rintro reference ⟨format, hreference⟩
    cases format with
    | json => exact .inl hreference
    | yaml => exact .inr hreference
  refine (h.texts.biUnion fun text _ => hread text).subset ?_
  rintro reference ⟨key, document, ⟨path, text, -, htext, hdocument⟩, hrefers⟩
  refine Set.mem_biUnion ⟨path, htext⟩
    ⟨.ofPath path, document, ?_, Json.mem_references_iff.mpr hrefers⟩
  simp only [documentOfText] at hdocument
  split at hdocument
  · next value hvalue =>
    cases hdocument
    exact hvalue
  · cases hdocument

theorem finite_fixed (h : BoundedFiles look) : (fixed look root).Finite := by
  have htellings : (tellings look).Finite := (finite_references h).image _
  exact (Set.finite_singleton _).union (htellings.union (htellings.image _))

theorem finite_queries (h : BoundedFiles look) : (queries look root).Finite :=
  ((finite_fixed h).image _).union (((finite_references h).image _).image _)

/-- The text of a URL of a file is its path and its query, and seven characters in front. -/
theorem length_render_localFile (f : Url.LocalFile) :
    f.url.render.length = f.segments.render.length + (Url.marked '?' f.query).length + 7 := by
  have hfront : "file:".toList.length = 5 := rfl
  rw [f.render_url, List.length_append, hfront, Url.LocalFile.rest, List.length_append,
    List.length_cons, List.length_cons]
  omega

/-- **The keys with a path under which there is something are not longer than the paths are.** -/
theorem exists_length_le (h : BoundedFiles look) (root : String) :
    ∃ limit, ∀ key path, Shaped look root key.toList → DocumentKey.path key = .ok path →
      look path ≠ .absent → key.toList ∈ fixed look root ∨ key.toList.length ≤ limit := by
  obtain ⟨limit, hlimit⟩ := h.path
  obtain ⟨longest, hlongest⟩ :=
    ((finite_queries h).image fun query => (Url.marked '?' query).length).bddAbove
  refine ⟨3 * limit + longest + 7, fun key path hshaped hpath hthere => ?_⟩
  rcases hshaped with hfixed | ⟨f, hquery, hrender⟩
  · exact .inl hfixed
  refine .inr ?_
  obtain ⟨hbytes, hnul⟩ := hlimit path hthere
  obtain ⟨url, file, hurl, htoFile, rfl⟩ := url_of_path hpath
  obtain ⟨f', hread, -, hlength⟩ := f.read?_render
  rw [hrender, hurl] at hread
  cases hread
  rw [String.toList_ofList] at hnul
  have hsegments := Url.LocalFile.length_render_le htoFile hnul
  have hmarked : (Url.marked '?' f.query).length ≤ longest := hlongest ⟨f.query, hquery, rfl⟩
  rw [← hrender, length_render_localFile]
  omega

end DocumentKey

/-- **Bounded files lead to finitely many documents.** -/
theorem BoundedFiles.finite_documents {look : String → FileState} (h : BoundedFiles look)
    {root : String} (hroot : DocumentKey.isFile root = true) (hmark : '#' ∉ root.toList) :
    (Documents look root).Finite := by
  obtain ⟨limit, hlimit⟩ := DocumentKey.exists_length_le h root
  have hfinite : (DocumentKey.fixed look root ∪ {cs | cs.length ≤ limit}).Finite :=
    (DocumentKey.finite_fixed h).union (List.finite_length_le Char limit)
  refine (hfinite.preimage fun _ _ _ _ h => String.toList_inj.mp h).subset ?_
  rintro key ⟨hreached, document, path, text, hpath, htext, -⟩
  obtain ⟨-, -, hshaped⟩ := DocumentKey.shaped_of_leads hroot hmark hreached
  exact hlimit key path hshaped hpath (by rw [htext]; exact nofun)

/-- **Loading ends.** -/
theorem BoundedFiles.exists_ends {look : String → FileState} (h : BoundedFiles look)
    {root : String} (hroot : DocumentKey.isFile root = true) (hmark : '#' ∉ root.toList) :
    ∃ keys result, Loading.Ends look (.start root) keys result :=
  Loading.exists_ends_start (h.finite_documents hroot hmark)

/-! ## 4. What is run -/

namespace Loading

variable {look : String → FileState} {l : Loading} {keys : List String}
  {result : Except LoadFailure Loading}

/-- What is run where one is told what is found. -/
theorem run_id_of_ends (h : Ends look l keys result) :
    Id.run (run (fun path => pure (look path)) l) = result :=
  run_of_ends (fun _ _ => rfl) (fun _ => repeatM_eq_of_monadTail _) (fun _ => rfl) h

/-- What is run where one has to look, if what is found does not change. -/
theorem run_io_of_ends {ask : String → IO FileState} (hask : ∀ path, ask path = pure (look path))
    (h : Ends look l keys result) : run ask l = pure result :=
  run_of_ends (fun _ _ => rfl) (fun _ => repeatM_eq_of_monadTail _) hask h

end Loading

/-! ### Keys of ways -/

theorem DocumentKey.toList_ofWay (way : List String) :
    (ofWay way).toList = (Url.ofFile way).render := String.toList_ofList

theorem DocumentKey.isFile_ofWay (way : List String) : isFile (ofWay way) = true := by
  rw [isFile, toList_ofWay]
  exact List.isPrefixOf_iff_prefix.mpr ⟨_, rfl⟩

theorem Url.unmarked_ofFile (way : List String) : (Url.ofFile way).Unmarked where
  scheme := show '#' ∉ fileScheme by decide
  authority := by
    intro a ha
    cases ha
    exact ⟨List.not_mem_nil, List.not_mem_nil⟩
  location := by
    refine Location.unmarked_path ?_
    split
    · exact Segments.unmarked_nil
    · intro segment hsegment
      obtain ⟨name, -, rfl⟩ := List.mem_map.mp hsegment
      exact mark_notMem_encode (.inl rfl)
  query := nofun
  fragment := rfl

theorem DocumentKey.mark_notMem_ofWay (way : List String) : '#' ∉ (ofWay way).toList := by
  rw [toList_ofWay]
  exact (Url.unmarked_ofFile way).render

/-! ### Trees of files -/

namespace FileTree

variable {tree : FileTree} {input : String}

/-- What a tree of files holds is bounded. -/
theorem boundedFiles (tree : FileTree) : BoundedFiles tree.look where
  path := by
    refine ⟨pathLimit, fun path hthere => ?_⟩
    have hpath : isPath path = true := by
      by_contra hnot
      exact hthere (by simp [look, find?, hnot])
    simp only [isPath, Bool.and_eq_true, decide_eq_true_iff, Bool.not_eq_true',
      List.contains_eq_mem, decide_eq_false_iff_not] at hpath
    exact ⟨hpath.1.2.le, hpath.2⟩
  texts := by
    refine (List.finite_toSet (tree.files.filterMap Prod.snd)).subset ?_
    rintro text ⟨path, htext⟩
    unfold look at htext
    split at htext
    · cases htext
    · cases htext
    · next content hcontent =>
      cases htext
      obtain ⟨way, -, hlookup⟩ := Option.bind_eq_some_iff.mp hcontent
      obtain ⟨front, back, hfiles, -⟩ := List.lookup_eq_some_iff.mp hlookup
      exact List.mem_filterMap.mpr ⟨(way, some text), by simp [hfiles], rfl⟩

theorem load_eq_of_ends {way keys : List String} {result : Except LoadFailure Loading}
    (hinput : tree.find? input = some way)
    (h : Loading.Ends tree.look (.start (DocumentKey.ofWay way)) keys result) :
    tree.load input = result := by
  simp only [load, hinput]
  exact Loading.run_id_of_ends h

/-- **A tree of files whose input is there is loaded in as many turns as it takes.** -/
theorem load_eq_iff {way : List String} {result : Except LoadFailure Loading}
    (hinput : tree.find? input = some way) : tree.load input = result ↔
      ∃ keys, Loading.Ends tree.look (.start (DocumentKey.ofWay way)) keys result := by
  constructor
  · rintro rfl
    obtain ⟨keys, result, hends⟩ := tree.boundedFiles.exists_ends
      (DocumentKey.isFile_ofWay way) (DocumentKey.mark_notMem_ofWay way)
    exact ⟨keys, load_eq_of_ends hinput hends ▸ hends⟩
  · rintro ⟨keys, hends⟩
    exact load_eq_of_ends hinput hends

/-- A tree of files is loaded where its input is there and loading comes to its end. -/
theorem load_eq_ok_iff {l : Loading} : tree.load input = .ok l ↔
    ∃ way keys, tree.find? input = some way ∧
      Loading.Ends tree.look (.start (DocumentKey.ofWay way)) keys (.ok l) := by
  cases hinput : tree.find? input with
  | none => simp [load, hinput]
  | some way => simp [load_eq_iff hinput]

end FileTree

theorem Loading.Ends.distinct {look : String → FileState} {l last : Loading} {keys : List String}
    (hends : Ends look l keys (.ok last)) (h : l.store.Distinct) : last.store.Distinct := by
  generalize hresult : Except.ok last = result at hends
  induction hends with
  | done => cases hresult; exact h
  | fault => cases hresult
  | @turn l next key rest _ _ _ hturn _ ih =>
    have hrest : { l with queue := rest }.store.Distinct := h
    exact ih (distinct_turn hrest hturn) hresult

/-- **The documents that are loaded name nothing twice.** -/
theorem FileTree.distinct_of_load {tree : FileTree} {input : String} {l : Loading}
    (h : tree.load input = .ok l) : l.store.Distinct := by
  obtain ⟨way, keys, -, hends⟩ := load_eq_ok_iff.mp h
  exact hends.distinct nofun

end SchemaMock
