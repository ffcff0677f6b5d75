/-
# URLs of files

The URL of a file is written in one way only, as far as its path goes.  What is read as the file of
a path has a host that is none, a path in which nothing is encoded further and no segment is a step,
and a query: a `LocalFile`.

* Reading a text gives such a URL or says that the file is elsewhere (`exists_localFile`).
* Reading a text against such a URL gives one with the query of either, or something that has
  nothing to do with the URL at all (`read?_url`).
* Such a URL, written and read again, is one with the same query and a path of the same length
  (`read?_render`), and the path of the file is hardly shorter than that (`length_render_le`).

So a file that is told in ever more ways is told by ever longer paths.
-/
import SchemaMock.Proofs.Joins
import SchemaMock.Loading

namespace SchemaMock

namespace Url

/-! ## 1. What encoding leaves alone -/

/-- Encoding leaves nothing that it would encode. -/
theorem encode_stays {inSet : Char → Bool} (hpercent : inSet '%' = false)
    (hdigit : ∀ n, inSet (hexDigit n) = false) (cs : List Char) :
    ∀ c ∈ encode inSet cs, inSet c = false := by
  intro c hc
  obtain ⟨d, -, hc⟩ := List.mem_flatMap.mp hc
  split at hc
  · obtain ⟨byte, -, hc⟩ := List.mem_flatMap.mp hc
    simp only [encodeByte, List.mem_cons, List.not_mem_nil, or_false] at hc
    rcases hc with rfl | rfl | rfl
    · exact hpercent
    · exact hdigit _
    · exact hdigit _
  · next hd =>
    cases List.mem_singleton.mp hc
    exact Bool.not_eq_true _ ▸ hd

/-- What is told for sixteen digits and for the star is told for whatever is written as a digit. -/
theorem forall_hexDigit {inSet : Char → Bool} (h : ∀ n < 16, inSet (hexDigit n) = false)
    (hstar : inSet '*' = false) (n : Nat) : inSet (hexDigit n) = false := by
  rcases Nat.lt_or_ge n 16 with hn | hn
  · exact h n hn
  · have hdigit : hexDigit n = '*' := by
      rw [hexDigit, digitChar_of_le hn]
      rfl
    exact hdigit ▸ hstar

theorem encode_staysInPath (cs : List Char) : ∀ c ∈ encode inPathSet cs, inPathSet c = false :=
  encode_stays rfl (forall_hexDigit (by decide) rfl) cs

theorem encode_staysInQuery (cs : List Char) :
    ∀ c ∈ encode (inQuerySet true) cs, inQuerySet true c = false :=
  encode_stays rfl (forall_hexDigit (by decide) rfl) cs

/-- Encoding writes no slash that was not there. -/
theorem isSlash_encode {inSet : Char → Bool} {cs : List Char} (h : ∀ c ∈ cs, isSlash c = false) :
    ∀ c ∈ encode inSet cs, isSlash c = false := by
  intro c hc
  obtain ⟨d, hd, hc⟩ := List.mem_flatMap.mp hc
  split at hc
  · obtain ⟨byte, -, hc⟩ := List.mem_flatMap.mp hc
    have hdigit : ∀ n, isSlash (hexDigit n) = false := forall_hexDigit (by decide) rfl
    simp only [encodeByte, List.mem_cons, List.not_mem_nil, or_false] at hc
    rcases hc with rfl | rfl | rfl
    · rfl
    · exact hdigit _
    · exact hdigit _
  · cases List.mem_singleton.mp hc
    exact h c hd

/-! ## 2. Paths -/

namespace Segments

/-- A segment that is read as it is written: nothing in it is encoded, it is not cut, and it is no
step. -/
structure Final (segment : List Char) : Prop where
  stays : ∀ c ∈ segment, inPathSet c = false
  noSlash : ∀ c ∈ segment, isSlash c = false
  notHere : dots? segment ≠ some 1
  notUp : dots? segment ≠ some 2

theorem final_nil : Final [] where
  stays := nofun
  noSlash := nofun
  notHere := by decide
  notUp := by decide

theorem exists_of_isDrive {segment : List Char} (h : isDrive segment = true) :
    ∃ a b, segment = [a, b] ∧ a.isAlpha = true ∧ (b = ':' ∨ b = '|') := by
  unfold isDrive at h
  split at h
  · next a b =>
    simp only [Bool.and_eq_true, Bool.or_eq_true, beq_iff_eq] at h
    exact ⟨a, b, rfl, h.1, h.2⟩
  · cases h

theorem Final.plainDrive {segment : List Char} (h : Final segment) (hdrive : isDrive segment) :
    Final (plainDrive segment) := by
  obtain ⟨a, b, rfl, halpha, -⟩ := exists_of_isDrive hdrive
  have hplain : Segments.plainDrive [a, b] = [a, ':'] := rfl
  have hdots : dots? [a, ':'] = none := by
    have hdot : a ≠ '.' := by
      rintro rfl
      exact absurd halpha (by decide)
    unfold dots?
    split
    · next heq => cases heq
    · next heq =>
      cases heq
      exact absurd rfl hdot
    · next heq => simp at heq
    · next heq => simp at heq
    · rfl
  rw [hplain]
  constructor
  · exact List.forall_mem_cons.mpr ⟨h.stays a List.mem_cons_self, List.forall_mem_singleton.mpr rfl⟩
  · exact List.forall_mem_cons.mpr
      ⟨h.noSlash a List.mem_cons_self, List.forall_mem_singleton.mpr rfl⟩
  · simp [hdots]
  · simp [hdots]

theorem trimFront_subset (segments : Segments) :
    ∀ segment ∈ segments.trimFront, segment = [] ∨ segment ∈ segments := by
  unfold trimFront
  split
  · exact List.forall_mem_singleton.mpr (.inl rfl)
  · exact fun segment h => .inr ((List.dropWhile_sublist _).subset h)

theorem trimFront_ne_nil (segments : Segments) : segments.trimFront ≠ [] := by
  unfold trimFront
  split
  · exact List.cons_ne_nil _ _
  · next hne => exact hne

/-- The front is trimmed once. -/
theorem trimFront_trimFront (segments : Segments) :
    segments.trimFront.trimFront = segments.trimFront := by
  unfold trimFront
  cases hdrop : segments.dropWhile List.isEmpty with
  | nil => rfl
  | cons first rest =>
    have hfirst := List.head?_dropWhile_not List.isEmpty segments
    rw [hdrop] at hfirst
    have hfirst : first.isEmpty = false := hfirst
    simp [hfirst]

/-- Final segments are walked along, but for the letter of a drive in front of them. -/
theorem walk_final {segments : Segments} (h : ∀ segment ∈ segments, Final segment)
    (hne : segments ≠ []) : ∀ {directories : Segments}, directories ≠ [] →
      walk true directories segments = directories.reverse ++ segments := by
  induction segments with
  | nil => exact absurd rfl hne
  | cons first rest ih =>
    intro directories hdirectories
    obtain ⟨hfirst, hrest⟩ := List.forall_mem_cons.mp h
    have hwritten : written true directories first = first := by
      rw [written, if_neg]
      exact fun hif => hdirectories hif.2.1
    cases rest with
    | nil =>
      rw [walk]
      split
      · next hdots => exact absurd hdots hfirst.notHere
      · next hdots => exact absurd hdots hfirst.notUp
      · rw [hwritten]
    | cons second rest =>
      rw [walk]
      · split
        · next hdots => exact absurd hdots hfirst.notHere
        · next hdots => exact absurd hdots hfirst.notUp
        · rw [hwritten, ih hrest (List.cons_ne_nil _ _) (List.cons_ne_nil _ _)]
          simp
      · exact List.cons_ne_nil _ _

theorem walk_final_of_root {first : List Char} {rest : Segments}
    (h : ∀ segment ∈ first :: rest, Final segment) :
    walk true [] (first :: rest) = written true [] first :: rest := by
  obtain ⟨hfirst, hrest⟩ := List.forall_mem_cons.mp h
  cases rest with
  | nil =>
    rw [walk]
    split
    · next hdots => exact absurd hdots hfirst.notHere
    · next hdots => exact absurd hdots hfirst.notUp
    · rfl
  | cons second rest =>
    rw [walk]
    · split
      · next hdots => exact absurd hdots hfirst.notHere
      · next hdots => exact absurd hdots hfirst.notUp
      · exact walk_final hrest (List.cons_ne_nil _ _) (List.cons_ne_nil _ _)
    · exact List.cons_ne_nil _ _

/-- The letter of a drive is as long however it is written. -/
theorem length_written (directories : Segments) (segment : List Char) :
    (written true directories segment).length = segment.length := by
  unfold written
  split
  · next hif =>
    obtain ⟨a, b, rfl, -⟩ := exists_of_isDrive hif.2.2
    rfl
  · rfl

theorem Final.written {segment : List Char} (h : Final segment) (directories : Segments) :
    Final (written true directories segment) := by
  unfold Segments.written
  split
  · next hif => exact h.plainDrive hif.2.2
  · exact h

theorem trimFront_written {first : List Char} {rest : Segments}
    (h : trimFront (first :: rest) = first :: rest) :
    trimFront (written true [] first :: rest) = written true [] first :: rest := by
  cases first with
  | nil => exact h
  | cons c cs =>
    refine trimFront_cons (List.ne_nil_of_length_pos ?_)
    rw [length_written]
    exact Nat.succ_pos _

theorem length_render_cons (first : List Char) (rest : Segments) :
    render (first :: rest) = '/' :: first ++ render rest := List.flatMap_cons

end Segments

end Url

namespace Text

/-- Pieces do not have the separator in them. -/
theorem separator_notMem_of_mem_cut {separator : Char} {piece : List Char} :
    ∀ {cs : List Char}, piece ∈ cut separator cs → separator ∉ piece
  | [], h => by
    rw [cut, List.mem_singleton] at h
    exact h ▸ List.not_mem_nil
  | c :: rest, h => by
    rw [cut] at h
    split at h
    · rcases List.mem_cons.mp h with rfl | h
      · exact List.not_mem_nil
      · exact separator_notMem_of_mem_cut h
    · next hc =>
      cases hrest : cut separator rest with
      | nil => exact absurd hrest (cut_ne_nil separator rest)
      | cons first pieces =>
        have ih : ∀ other ∈ first :: pieces, separator ∉ other := fun other hother =>
          separator_notMem_of_mem_cut (hrest ▸ hother)
        rw [hrest] at h
        rcases List.mem_cons.mp h with rfl | h
        · rw [List.mem_cons, not_or]
          exact ⟨Ne.symm hc, ih first List.mem_cons_self⟩
        · exact ih piece (List.mem_cons_of_mem _ h)

end Text

namespace Url

/-- The segments of a text for a file are cut and encoded already. -/
theorem segmentsOf_stays {cs segment : List Char} (h : segment ∈ segmentsOf .file cs) :
    (∀ c ∈ segment, inPathSet c = false) ∧ ∀ c ∈ segment, isSlash c = false := by
  obtain ⟨piece, hpiece, rfl⟩ := List.mem_map.mp h
  refine ⟨encode_staysInPath piece, isSlash_encode fun c hc => ?_⟩
  have hslash : c ≠ '/' := by
    rintro rfl
    exact Text.separator_notMem_of_mem_cut hpiece hc
  have hback : c ≠ '\\' := by
    rintro rfl
    obtain ⟨d, -, hd⟩ := List.mem_map.mp (Text.mem_of_mem_cut hpiece hc)
    split at hd
    · exact absurd hd (by decide)
    · next hne => exact hne hd
  simp [isSlash, hslash, hback]

open Segments in
/-- A path for a file is final. -/
theorem final_pathFrom {directories : Segments} (h : ∀ segment ∈ directories, Final segment)
    (cs : List Char) : ∀ segment ∈ pathFrom .file directories cs, Final segment := by
  intro segment hsegment
  rw [pathFrom, if_pos rfl] at hsegment
  rcases trimFront_subset _ segment hsegment with rfl | hsegment
  · exact final_nil
  · rcases mem_walk hsegment with hsegment | rfl | ⟨told, htold, hhere, hup, hwritten⟩
    · exact h segment hsegment
    · exact final_nil
    · obtain ⟨hstays, hslash⟩ := segmentsOf_stays htold
      have hfinal : Final told := ⟨hstays, hslash, hhere, hup⟩
      rcases hwritten with rfl | ⟨hdrive, rfl⟩
      · exact hfinal
      · exact hfinal.plainDrive hdrive

/-! ## 3. Files of this machine -/

/-- The URL of a file on no host, as it is read. -/
structure LocalFile where
  segments : Segments
  query : Option (List Char)
  ne_nil : segments ≠ []
  final : ∀ segment ∈ segments, Segments.Final segment
  trimmed : segments.trimFront = segments
  queryStays : ∀ q, query = some q → ∀ c ∈ q, inQuerySet true c = false

namespace LocalFile

/-- The URL. -/
def url (f : LocalFile) : Url :=
  ⟨fileScheme, some ⟨[], [], none⟩, .path f.segments, f.query, none⟩

end LocalFile

variable {body : Body}

theorem encodedQuery_stays {kind : SchemeKind} (h : kind.isKnown = true) :
    ∀ q, body.encodedQuery kind = some q → ∀ c ∈ q, inQuerySet true c = false := by
  intro q hq
  obtain ⟨text, -, rfl⟩ := Option.map_eq_some_iff.mp hq
  rw [h]
  exact encode_staysInQuery text

/-- A file on no host, of a path from some directory. -/
theorem exists_file (hfragment : body.encodedFragment = none) {directories : Segments}
    (h : ∀ segment ∈ directories, Segments.Final segment) (cs : List Char) :
    ∃ f : LocalFile, f.url = file [] (pathFrom .file directories cs) body ∧
      f.query = body.encodedQuery .file := by
  have htrimmed : (pathFrom .file directories cs).trimFront = pathFrom .file directories cs := by
    rw [pathFrom, if_pos rfl, Segments.trimFront_trimFront]
  have hne : pathFrom .file directories cs ≠ [] := by
    rw [pathFrom, if_pos rfl]
    exact Segments.trimFront_ne_nil _
  refine ⟨⟨_, body.encodedQuery .file, hne, final_pathFrom h cs, htrimmed,
    encodedQuery_stays rfl⟩, ?_, rfl⟩
  rw [LocalFile.url, file, hfragment]

/-- A file of a path from the root. -/
theorem exists_file_root (hfragment : body.encodedFragment = none) (cs : List Char) :
    ∃ f : LocalFile, f.url = file [] (pathFrom .file [] cs) body ∧
      f.query = body.encodedQuery .file :=
  exists_file hfragment (List.forall_mem_nil _) cs

/-- A file from what stands behind two slashes is on no host, or on another one. -/
theorem fileOnHost?_cases (hfragment : body.encodedFragment = none) {cs : List Char} {url : Url}
    (h : fileOnHost? body cs = some url) :
    (∃ f : LocalFile, f.url = url ∧ f.query = body.encodedQuery .file) ∨
      hostText url ≠ [] ∧ hostText url ≠ "localhost".toList := by
  have hhost : ∀ (host path : List Char) (onDrive : Bool),
      some (file (if onDrive then [] else if host = "localhost".toList then [] else host)
          (pathFrom .file [] path) body) = some url →
      (∃ f : LocalFile, f.url = url ∧ f.query = body.encodedQuery .file) ∨
        hostText url ≠ [] ∧ hostText url ≠ "localhost".toList := by
    intro host path onDrive heq
    cases heq
    split
    · exact .inl (exists_file_root hfragment path)
    · split
      · exact .inl (exists_file_root hfragment path)
      · next hlocal =>
        cases host with
        | nil => exact .inl (exists_file_root hfragment path)
        | cons c rest => exact .inr ⟨List.cons_ne_nil _ _, hlocal⟩
  unfold fileOnHost? at h
  dsimp only at h
  split at h
  · cases h
    exact .inl (exists_file_root hfragment cs)
  · split at h
    · exact hhost [] _ _ h
    · obtain ⟨host, -, h⟩ := Option.bind_eq_some_iff.mp h
      exact hhost host _ _ h

/-- What is read as a file of this machine on its own. -/
theorem exists_localFile_file? (hfragment : body.encodedFragment = none) {url : Url}
    (h : file? none body = some url) :
    (∃ f : LocalFile, f.url = url) ∨ hostText url ≠ [] ∧ hostText url ≠ "localhost".toList := by
  have hnone : ∀ cs, ∃ f : LocalFile, f.url = file [] (pathFrom .file [] cs) body := fun cs =>
    (exists_file_root hfragment cs).imp fun _ => And.left
  unfold file? at h
  split at h
  · cases h
    refine .inl ⟨⟨[[]], body.encodedQuery .file, List.cons_ne_nil _ _,
      List.forall_mem_singleton.mpr Segments.final_nil, rfl, encodedQuery_stays rfl⟩, ?_⟩
    rw [LocalFile.url, file, hfragment]
  · split at h
    · split at h
      · split at h
        · exact (fileOnHost?_cases hfragment h).imp_left fun ⟨f, hf, _⟩ => ⟨f, hf⟩
        · cases h
          exact .inl (hnone _)
      · cases h
        exact .inl (hnone _)
    · cases h
      exact .inl (hnone _)

/-! ## 4. Texts of files -/

/-- What counts of a text that begins with graphic characters begins with them. -/
theorem exists_cleanText {front : List Char} (hne : front ≠ []) (h : ∀ c ∈ front, 32 < c.toNat)
    (back : List Char) : ∃ rest, cleanText (front ++ back) = front ++ rest := by
  have hreverse : ∀ c ∈ front.reverse, 32 < c.toNat := fun c hc => h c (List.mem_reverse.mp hc)
  have hbegin : (front ++ back).dropWhile (fun c => decide (c.toNat ≤ 32)) = front ++ back := by
    rw [List.dropWhile_append, dropWhile_graphic h, if_neg (by simpa using hne)]
  simp only [cleanText, hbegin, List.reverse_append, List.dropWhile_append,
    dropWhile_graphic hreverse]
  split
  · exact ⟨[], by rw [List.reverse_reverse, filter_graphic h, List.append_nil]⟩
  · rw [List.reverse_append, List.reverse_reverse, List.filter_append, filter_graphic h]
    exact ⟨_, rfl⟩

/-- The mark of the scheme of files, in front of a text. -/
theorem splitScheme?_file (rest : List Char) :
    splitScheme? ("file:".toList ++ rest) = some (fileScheme, rest) := rfl

theorem read?_file (base : Option Url) {cs rest : List Char}
    (h : cleanText cs = "file:".toList ++ rest) :
    read? base cs = file? (base.bind fun b => if b.kind = .file then some b else none)
      (Body.ofText rest) := by
  simp only [read?, h, splitScheme?_file]
  rfl

/-- **What is read as a file that has a path here is the URL of a file on no host.** -/
theorem exists_localFile {key : String} (hfile : DocumentKey.isFile key = true)
    (hmark : '#' ∉ key.toList) {url : Url} (h : read? none key.toList = some url)
    {path : List Char} (hpath : url.toFile? = some path) : ∃ f : LocalFile, f.url = url := by
  obtain ⟨back, hback⟩ := List.isPrefixOf_iff_prefix.mp hfile
  have hne : "file:".toList ≠ [] := by decide
  obtain ⟨rest, hrest⟩ := exists_cleanText hne (by simp) back
  rw [hback] at hrest
  have hfragment : (Body.ofText rest).encodedFragment = none := by
    refine (unmarked_body fun hmem => hmark ?_).encodedFragment
    exact cleanText_subset _ (hrest ▸ List.mem_append_right _ hmem)
  rw [read?_file none hrest] at h
  refine (exists_localFile_file? hfragment h).resolve_right fun ⟨hhost, hlocal⟩ => ?_
  unfold toFile? at hpath
  split at hpath
  · cases hpath
  · rw [if_pos ⟨hhost, hlocal⟩] at hpath
    cases hpath

/-! ### Written and read again -/

theorem graphic_of_isControl {c : Char} (h : isControl c = false) (hblank : c ≠ ' ') :
    32 < c.toNat := by
  have hne : c.toNat ≠ 32 := fun heq => hblank (Char.toNat_inj.mp heq)
  simp only [isControl, Bool.or_eq_false_iff, decide_eq_false_iff_not] at h
  omega

theorem graphic_of_path {c : Char} (h : inPathSet c = false) : 32 < c.toNat := by
  have hblank : c ≠ ' ' := by
    rintro rfl
    exact absurd h (by decide)
  simp only [inPathSet, inFragmentSet, Bool.or_eq_false_iff] at h
  exact graphic_of_isControl h.1.1 hblank

theorem graphic_of_query {c : Char} (h : inQuerySet true c = false) : 32 < c.toNat := by
  have hblank : c ≠ ' ' := by
    rintro rfl
    exact absurd h (by decide)
  simp only [inQuerySet, Bool.or_eq_false_iff] at h
  exact graphic_of_isControl h.1.1 hblank

namespace Segments

variable {segments : Segments}

/-- What stands in the text of final segments: slashes, and nothing that is encoded. -/
theorem inPathSet_render (h : ∀ segment ∈ segments, Final segment) :
    ∀ c ∈ segments.render, inPathSet c = false := by
  intro c hc
  obtain ⟨segment, hsegment, hc⟩ := List.mem_flatMap.mp hc
  rcases List.mem_cons.mp hc with rfl | hc
  · rfl
  · exact (h segment hsegment).stays c hc

end Segments

/-- A file without a host between the slashes. -/
theorem fileOnHost?_slash (body : Body) (cs : List Char) :
    fileOnHost? body ('/' :: cs) = some (file [] (pathFrom .file [] cs) body) := by
  have hfront : ('/' :: cs).takeWhile (fun c => !isSlash c) = [] := rfl
  have hback : (('/' :: cs).dropWhile fun c => !isSlash c).drop 1 = cs := rfl
  have hdrive : Segments.isDrive [] = false := rfl
  unfold fileOnHost?
  generalize "localhost".toList = localhost
  simp only [hfront, hback, hdrive, List.isEmpty_nil, Bool.false_eq_true, if_false, if_true,
    Option.bind_eq_bind, Option.bind_some, ite_self]

/-- The query that a text has of its own. -/
def ownQuery (cs : List Char) : Option (List Char) :=
  match splitScheme? (cleanText cs) with
  | some (_, rest) => (Body.ofText rest).encodedQuery .file
  | none => (Body.ofText (cleanText cs)).encodedQuery .file

namespace LocalFile

variable (f : LocalFile)

/-- What stands behind the scheme of the URL. -/
def rest : List Char := '/' :: '/' :: f.segments.render ++ marked '?' f.query

theorem render_url : f.url.render = "file:".toList ++ f.rest := by
  have hfront : f.url.renderFront = ['/', '/'] := rfl
  have hscheme : f.url.scheme = "file".toList := rfl
  rw [Url.render, hfront, hscheme, rest]
  simp [url, marked, Location.render]

theorem graphic_rest : ∀ c ∈ f.rest, 32 < c.toNat := by
  intro c hc
  rcases List.mem_append.mp hc with hc | hc
  · rcases List.mem_cons.mp hc with rfl | hc
    · decide
    · rcases List.mem_cons.mp hc with rfl | hc
      · decide
      · exact graphic_of_path (Segments.inPathSet_render f.final c hc)
  · cases hquery : f.query with
    | none =>
      rw [hquery] at hc
      cases hc
    | some q =>
      rw [hquery] at hc
      rcases List.mem_cons.mp hc with rfl | hc
      · decide
      · exact graphic_of_query (f.queryStays q hquery c hc)

/-- The rest is taken apart where it has been put together. -/
theorem body_rest :
    Body.ofText f.rest = ⟨'/' :: '/' :: f.segments.render, f.query, none⟩ := by
  have hmain : ∀ d, inPathSet d = true → d ∉ '/' :: '/' :: f.segments.render := by
    intro d hd hmem
    have hstays : inPathSet d = false := by
      rcases List.mem_cons.mp hmem with rfl | hmem
      · rfl
      · rcases List.mem_cons.mp hmem with rfl | hmem
        · rfl
        · exact Segments.inPathSet_render f.final d hmem
    rw [hd] at hstays
    cases hstays
  have hmark : '#' ∉ f.rest := by
    intro hmem
    rcases List.mem_append.mp hmem with hmem | hmem
    · exact hmain '#' rfl hmem
    · cases hquery : f.query with
      | none =>
        rw [hquery] at hmem
        cases hmem
      | some q =>
        rw [hquery] at hmem
        rcases List.mem_cons.mp hmem with hmem | hmem
        · exact absurd hmem (by decide)
        · exact absurd (f.queryStays q hquery '#' hmem) (by decide)
  have hfragment : Text.splitFirst '#' f.rest = (f.rest, none) := Text.splitFirst_of_notMem hmark
  have hquery : Text.splitFirst '?' f.rest = ('/' :: '/' :: f.segments.render, f.query) := by
    rw [rest]
    cases f.query with
    | none =>
      rw [marked, List.append_nil]
      exact Text.splitFirst_of_notMem (hmain '?' rfl)
    | some q => exact Text.splitFirst_append q (hmain '?' rfl)
  simp only [Body.ofText, hfragment, hquery]

/-- The file, as it is read again: the letter of a drive gets a colon. -/
theorem exists_walked : ∃ f' : LocalFile,
    f'.segments = pathFrom .file [] (Text.joinWith '/' f.segments) ∧ f'.query = f.query ∧
      f'.segments.render.length = f.segments.render.length := by
  have hstays : ∀ segment ∈ f.segments, ∀ c ∈ segment, inPathSet c = false :=
    fun segment h => (f.final segment h).stays
  have hslash : ∀ segment ∈ f.segments, ∀ c ∈ segment, isSlash c = false :=
    fun segment h => (f.final segment h).noSlash
  have hfile : (SchemeKind.file == .file) = true := rfl
  rw [pathFrom, Segments.segmentsOf_joinWith f.ne_nil hstays hslash, hfile, if_pos rfl]
  obtain ⟨segments, query, hne, hfinal, htrimmed, hquery⟩ := f
  obtain ⟨first, rest, rfl⟩ := List.exists_cons_of_ne_nil hne
  have hfinal' : ∀ segment ∈ Segments.written true [] first :: rest, Segments.Final segment := by
    obtain ⟨hfirst, hrest⟩ := List.forall_mem_cons.mp hfinal
    exact List.forall_mem_cons.mpr ⟨hfirst.written [], hrest⟩
  have htrimmed' := Segments.trimFront_written htrimmed
  simp only [Segments.walk_final_of_root hfinal, htrimmed']
  refine ⟨⟨_, query, List.cons_ne_nil _ _, hfinal', htrimmed', hquery⟩, rfl, rfl, ?_⟩
  simp [Segments.length_render_cons, Segments.length_written]

/-- **The URL of a file on no host, written and read again, is one with the same query and a path of
the same length.** -/
theorem read?_render : ∃ f' : LocalFile, read? none f.url.render = some f'.url ∧
    f'.query = f.query ∧ f'.segments.render.length = f.segments.render.length := by
  obtain ⟨f', hsegments, hquery, hlength⟩ := f.exists_walked
  refine ⟨f', ?_, hquery, hlength⟩
  have hgraphic : ∀ c ∈ f.url.render, 32 < c.toNat := by
    rw [render_url]
    exact List.forall_mem_append.mpr ⟨by simp, f.graphic_rest⟩
  have hclean : cleanText f.url.render = "file:".toList ++ f.rest :=
    (cleanText_of_graphic hgraphic).trans f.render_url
  have hencoded : f.query.map (encode (inQuerySet true)) = f.query := by
    cases hq : f.query with
    | none => rfl
    | some q => rw [Option.map_some, encode_of_stays (f.queryStays q hq)]
  rw [read?_file none hclean, f.body_rest, Segments.render_eq_joinWith f.ne_nil]
  refine (fileOnHost?_slash _ _).trans ?_
  rw [url, file, hsegments, hquery]
  exact congrArg (fun query => some (Url.mk _ _ _ query _)) hencoded

/-! ## 5. Against a file -/

theorem final_directoriesOf {segments : Segments}
    (h : ∀ segment ∈ segments, Segments.Final segment) :
    ∀ segment ∈ directoriesOf .file segments, Segments.Final segment := by
  intro segment hsegment
  unfold directoriesOf at hsegment
  split at hsegment
  · cases hsegment
  · next last rest heq =>
    have hreverse : ∀ other ∈ last :: rest, Segments.Final other := fun other hother =>
      h other (List.mem_reverse.mp (heq ▸ hother))
    split at hsegment
    · exact hreverse segment hsegment
    · exact hreverse segment (List.mem_cons_of_mem _ hsegment)

/-- What is read behind the scheme of files, against a file, is a file with the query of either; or
it has nothing to do with the file. -/
theorem file?_url {body : Body} (hfragment : body.encodedFragment = none) {told : Url}
    (h : file? (some f.url) body = some told) :
    (∃ f' : LocalFile, f'.url = told ∧
      (f'.query = f.query ∨ f'.query = body.encodedQuery .file)) ∨
      ∀ base, file? base body = some told := by
  have hpath : ∀ {directories : Segments}, (∀ segment ∈ directories, Segments.Final segment) →
      ∀ cs, file [] (pathFrom .file directories cs) body = told → ∃ f' : LocalFile,
        f'.url = told ∧ (f'.query = f.query ∨ f'.query = body.encodedQuery .file) := by
    intro directories hdirectories cs heq
    obtain ⟨f', hurl, hquery⟩ := exists_file hfragment hdirectories cs
    exact ⟨f', hurl.trans heq, .inr hquery⟩
  have hroot : ∀ cs, file?.fromRoot (some f.url) body cs = told → ∃ f' : LocalFile,
      f'.url = told ∧ (f'.query = f.query ∨ f'.query = body.encodedQuery .file) := by
    intro cs heq
    simp only [file?.fromRoot] at heq
    split at heq
    · exact hpath (List.forall_mem_nil _) cs heq
    · split at heq
      · exact hpath (fun segment hsegment => f.final segment (List.mem_of_mem_take hsegment)) cs heq
      · exact hpath (List.forall_mem_nil _) cs heq
  obtain ⟨main, query, fragment⟩ := body
  cases main with
  | nil =>
    refine .inl ?_
    have heq := Option.some.inj h
    have hor : (Option.map (encode (inQuerySet true)) query).or f.query = f.query ∨
        (Option.map (encode (inQuerySet true)) query).or f.query
          = Option.map (encode (inQuerySet true)) query := by
      cases query with
      | none => exact .inl rfl
      | some q => exact .inr rfl
    have hquery : ∀ q, (Option.map (encode (inQuerySet true)) query).or f.query = some q →
        ∀ c ∈ q, inQuerySet true c = false := by
      rcases hor with hor | hor
      · rw [hor]
        exact f.queryStays
      · rw [hor]
        intro q hq
        obtain ⟨text, -, rfl⟩ := Option.map_eq_some_iff.mp hq
        exact encode_staysInQuery text
    refine ⟨⟨f.segments, _, f.ne_nil, f.final, f.trimmed, hquery⟩, ?_, hor⟩
    rw [← heq, hfragment]
    rfl
  | cons c rest =>
    simp only [file?] at h
    split at h
    · next hslash =>
      cases rest with
      | nil => exact .inl (hroot [] (Option.some.inj h))
      | cons d rest' =>
        dsimp only at h
        split at h
        · next hslash' =>
          refine .inr fun base => ?_
          simp only [file?, hslash, hslash', if_true]
          exact h
        · exact .inl (hroot (d :: rest') (Option.some.inj h))
    · split at h
      · exact .inl (hpath (List.forall_mem_nil _) _ (Option.some.inj h))
      · refine .inl (hpath (final_directoriesOf f.final) (c :: rest) ?_)
        exact Option.some.inj h

/-- **What a text is read as against a file is a file with the query of either, or has nothing to do
with the file.** -/
theorem read?_url {cs : List Char} (hmark : '#' ∉ cs) {told : Url}
    (h : read? (some f.url) cs = some told) :
    (∃ f' : LocalFile, f'.url = told ∧ (f'.query = f.query ∨ f'.query = ownQuery cs)) ∨
      ∀ f' : LocalFile, read? (some f'.url) cs = some told := by
  have hclean : '#' ∉ cleanText cs := fun hmem => hmark (cleanText_subset cs hmem)
  have hbase : ∀ f' : LocalFile,
      ((some f'.url).bind fun b => if b.kind = .file then some b else none) = some f'.url :=
    fun _ => rfl
  simp only [read?] at h ⊢
  rw [ownQuery]
  cases hsplit : splitScheme? (cleanText cs) with
  | none =>
    have hhead : (cleanText cs).head? ≠ some '#' := fun hhead =>
      hclean (List.mem_of_mem_head? hhead)
    have hread : ∀ f' : LocalFile,
        (if f'.url.isRootless = true then none
          else if f'.url.kind = .file then file? (some f'.url) (Body.ofText (cleanText cs))
          else relative? f'.url (Body.ofText (cleanText cs)))
        = file? (some f'.url) (Body.ofText (cleanText cs)) := fun _ => rfl
    simp only [hsplit, if_neg hhead, hread] at h ⊢
    exact (f.file?_url (unmarked_body hclean).encodedFragment h).imp_right
      fun hany f' => hany (some f'.url)
  | some split =>
    obtain ⟨scheme, rest⟩ := split
    obtain ⟨-, hrest⟩ := unmarked_splitScheme hclean hsplit
    simp only [hsplit] at h ⊢
    cases hkind : SchemeKind.of scheme with
    | file =>
      simp only [hkind, hbase] at h ⊢
      exact (f.file?_url (unmarked_body hrest).encodedFragment h).imp_right
        fun hany f' => hany (some f'.url)
    | network =>
      have hscheme : ∀ f' : LocalFile, f'.url.scheme ≠ scheme := by
        rintro f' rfl
        cases hkind
      simp only [hkind, network?, hscheme, and_false, if_false] at h ⊢
      exact .inr fun _ => h
    | other =>
      simp only [hkind] at h ⊢
      exact .inr fun _ => h

end LocalFile

/-! ## 6. Lengths -/

theorem length_bytesOf_pos (c : Char) : 1 ≤ (bytesOf c).length := by
  simp only [bytesOf]
  split
  · exact Nat.le_refl _
  · split
    · exact Nat.le_add_left _ _
    · split <;> exact Nat.le_add_left _ _

/-- Three characters make a byte at least. -/
theorem length_le_decodeBytes (cs : List Char) : cs.length ≤ 3 * (decodeBytes cs).length := by
  induction cs using decodeBytes.induct with
  | case1 a b rest x y hx hy ih =>
    simp only [decodeBytes, hx, hy, List.length_cons]
    omega
  | case2 a b rest hnot ih =>
    have hpercent := length_bytesOf_pos '%'
    rw [decodeBytes]
    split
    · next x y hx hy => exact absurd hy (hnot x y hx)
    · simp only [List.length_cons, List.length_append] at ih ⊢
      omega
  | case3 c rest hnot ih =>
    have hc := length_bytesOf_pos c
    rw [decodeBytes]
    · simp only [List.length_cons, List.length_append]
      omega
    · exact hnot
  | case4 => exact Nat.le_refl _

/-- A text that is decoded is no shorter, in bytes, than a third of what it is decoded from. -/
theorem length_le_decode {cs text : List Char} (h : decode? cs = some text) :
    cs.length ≤ 3 * (String.ofList text).utf8ByteSize := by
  have hbytes : (String.ofList text).utf8ByteSize = (decodeBytes cs).length := by
    obtain ⟨s, hs, rfl⟩ := Option.map_eq_some_iff.mp h
    rw [String.ofList_toList]
    unfold String.fromUTF8? at hs
    split at hs
    · cases hs
      exact List.size_toArray.trans (List.length_map _)
    · cases hs
  exact hbytes ▸ length_le_decodeBytes cs

/-- A path is no shorter, in bytes, than a third of the text that it is decoded from. -/
theorem length_render_le_decode {segments : Segments}
    (hnul : '\x00' ∉ segments.flatMap fun s => '/' :: (decode? s).getD ['\x00']) :
    segments.render.length
      ≤ 3 * (String.ofList
          (segments.flatMap fun s => '/' :: (decode? s).getD ['\x00'])).utf8ByteSize := by
  induction segments with
  | nil => exact Nat.zero_le _
  | cons first rest ih =>
    rw [List.flatMap_cons, List.mem_append, List.mem_cons, not_or, not_or] at hnul
    obtain ⟨⟨-, hfirst⟩, hrest⟩ := hnul
    have hslash : (String.ofList ['/']).utf8ByteSize = 1 := rfl
    cases hdecode : decode? first with
    | none =>
      rw [hdecode] at hfirst
      exact absurd (List.mem_singleton_self _) hfirst
    | some text =>
      have hlength := length_le_decode hdecode
      have hih := ih hrest
      have htext : String.ofList ('/' :: text) = String.ofList ['/'] ++ String.ofList text := by
        rw [← String.ofList_append, List.singleton_append]
      rw [Segments.length_render_cons, List.flatMap_cons, hdecode, Option.getD_some,
        String.ofList_append, htext, String.utf8ByteSize_append, String.utf8ByteSize_append, hslash,
        List.length_append, List.length_cons]
      omega

namespace LocalFile

/-- The path of a file is decoded from the segments of its URL. -/
theorem toFile?_url (f : LocalFile) {path : List Char} (h : f.url.toFile? = some path) :
    (if endsLikeDrive (f.segments.flatMap fun s => '/' :: (decode? s).getD ['\x00']) then
        (f.segments.flatMap fun s => '/' :: (decode? s).getD ['\x00']) ++ ['/']
      else f.segments.flatMap fun s => '/' :: (decode? s).getD ['\x00']) = path := by
  have hhost : ¬ (f.url.hostText ≠ [] ∧ f.url.hostText ≠ "localhost".toList) := fun hne => hne.1 rfl
  change (if f.url.hostText ≠ [] ∧ f.url.hostText ≠ "localhost".toList then none else some _)
    = some path at h
  rw [if_neg hhost] at h
  exact Option.some.inj h

/-- **The path of a file in the text of its URL is hardly longer than the path of the file.** -/
theorem length_render_le {f : LocalFile} {path : List Char} (h : f.url.toFile? = some path)
    (hnul : '\x00' ∉ path) :
    f.segments.render.length ≤ 3 * (String.ofList path).utf8ByteSize := by
  have hpath := f.toFile?_url h
  have hdecode := @length_render_le_decode f.segments
  generalize (f.segments.flatMap fun s => '/' :: (decode? s).getD ['\x00']) = plain at hpath hdecode
  split at hpath
  · subst hpath
    have hplain := hdecode fun hmem => hnul (List.mem_append_left _ hmem)
    rw [String.ofList_append, String.utf8ByteSize_append]
    omega
  · subst hpath
    exact hdecode hnul

end LocalFile

end Url

end SchemaMock
