/-
# Joining keys sets no marks

The mark `#` stands between the URL of a document and a pointer into it, so the key of a document
has none.  It has to stay so when keys are joined: the key that the text `document` tells in the
document `current` has no mark if neither of the two has one (`DocumentKey.mark_notMem_join`).

Reading a URL against a base takes some parts from the base and the others from the text, so its
parts have no mark if the base and the text have none (`Url.unmarked_read`).
-/
import SchemaMock.Proofs.Marks
import SchemaMock.Reference

namespace SchemaMock

namespace Url

/-! ## 1. Whole URLs -/

/-- The text of a rootless URL, or every segment of a path, has no mark. -/
def Location.Unmarked : Location → Prop
  | .rootless text => '#' ∉ text
  | .path segments => segments.Unmarked

theorem Location.unmarked_path {segments : Segments} (h : segments.Unmarked) :
    (Location.path segments).Unmarked := h

/-- No part of a URL has a mark, and it has no fragment. -/
structure Unmarked (url : Url) : Prop where
  scheme : '#' ∉ url.scheme
  authority : ∀ a, url.authority = some a → a.Unmarked
  location : url.location.Unmarked
  query : ∀ q, url.query = some q → '#' ∉ q
  fragment : url.fragment = none

theorem Location.Unmarked.render {location : Location} (h : location.Unmarked) :
    '#' ∉ location.render := by
  cases location with
  | rootless text => exact h
  | path segments => exact Segments.Unmarked.render h

theorem Unmarked.segments {url : Url} (h : url.Unmarked) : url.segments.Unmarked := by
  have hlocation := h.location
  unfold Url.segments
  split
  · next heq =>
    rw [heq] at hlocation
    exact hlocation
  · exact Segments.unmarked_empty

theorem Unmarked.hostText {url : Url} (h : url.Unmarked) : '#' ∉ hostText url := by
  unfold Url.hostText
  cases heq : url.authority with
  | none => exact List.not_mem_nil
  | some a => exact (h.authority a heq).host

/-- **The text of an unmarked URL has no mark.** -/
theorem Unmarked.render {url : Url} (h : url.Unmarked) : '#' ∉ url.render := by
  have hfront : '#' ∉ renderFront url := by
    unfold renderFront
    split
    · next a heq => simpa using (h.authority a heq).render
    · split
      · decide
      · exact List.not_mem_nil
  have hquery := mark_notMem_marked (by decide : '?' ≠ '#') h.query
  have hlocation := h.location.render
  have hscheme := h.scheme
  have hcolon : '#' ≠ ':' := by decide
  rw [Url.render, h.fragment]
  simp only [List.mem_append, List.mem_cons, not_or]
  exact ⟨⟨⟨⟨hscheme, hcolon, hfront⟩, hlocation⟩, hquery⟩, List.not_mem_nil⟩

/-- What is said behind the scheme has no mark. -/
structure Body.Unmarked (body : Body) : Prop where
  main : '#' ∉ body.main
  query : ∀ q, body.query = some q → '#' ∉ q
  fragment : body.fragment = none

theorem unmarked_body {cs : List Char} (h : '#' ∉ cs) : (Body.ofText cs).Unmarked := by
  have hfront : Text.splitFirst '#' cs = (cs, none) := Text.splitFirst_of_notMem h
  have hmain := Text.splitFirst_fst_subset '?' cs
  refine ⟨?_, ?_, ?_⟩
  · simp only [Body.ofText, hfront]
    exact fun hmem => h (hmain hmem)
  · simp only [Body.ofText, hfront]
    exact fun q hq hmem => h (Text.splitFirst_snd_subset hq hmem)
  · simp only [Body.ofText, hfront]

theorem unmarked_directoriesOf (kind : SchemeKind) {segments : Segments}
    (h : segments.Unmarked) : (directoriesOf kind segments).Unmarked := by
  have hreverse := h.reverse
  unfold directoriesOf
  split
  · exact Segments.unmarked_empty
  · next last rest heq =>
    rw [heq] at hreverse
    split
    · exact hreverse
    · exact hreverse.of_subset (List.subset_cons_self _ _)

/-! ## 2. Reading -/

section Reading

variable {body : Body} (hbody : body.Unmarked)

include hbody

theorem Body.Unmarked.encodedQuery (kind : SchemeKind) {q : List Char}
    (h : body.encodedQuery kind = some q) : '#' ∉ q := by
  obtain ⟨text, htext, rfl⟩ := Option.map_eq_some_iff.mp h
  exact mark_notMem_encode (.inr (hbody.query text htext))

theorem Body.Unmarked.encodedFragment : body.encodedFragment = none := by
  rw [Body.encodedFragment, hbody.fragment]
  rfl

/-- A URL takes its query from the body, and everything else from unmarked parts. -/
theorem unmarked_mk {scheme : List Char} {authority : Option Authority} {location : Location}
    (kind : SchemeKind) (hscheme : '#' ∉ scheme)
    (hauthority : ∀ a, authority = some a → a.Unmarked) (hlocation : location.Unmarked) :
    (Url.mk scheme authority location (body.encodedQuery kind) body.encodedFragment).Unmarked where
  scheme := hscheme
  authority := hauthority
  location := hlocation
  query := fun _ h => hbody.encodedQuery kind h
  fragment := hbody.encodedFragment

theorem unmarked_file {host : List Char} {segments : Segments} (hhost : '#' ∉ host)
    (hsegments : segments.Unmarked) : (file host segments body).Unmarked := by
  refine unmarked_mk hbody .file (by decide) (fun a ha => ?_) hsegments
  cases ha
  exact ⟨List.not_mem_nil, hhost⟩

theorem unmarked_withAuthority {scheme cs : List Char} {url : Url} (hscheme : '#' ∉ scheme)
    (hcs : '#' ∉ cs) (h : withAuthority? scheme body cs = some url) : url.Unmarked := by
  obtain ⟨authority, hread, h⟩ := Option.bind_eq_some_iff.mp h
  cases h
  have hfront : '#' ∉ (splitAuthority (.of scheme) cs).1 :=
    fun hmem => hcs ((List.takeWhile_sublist _).subset hmem)
  have hpath : '#' ∉ (splitAuthority (.of scheme) cs).2 :=
    fun hmem => hcs ((List.dropWhile_sublist _).subset hmem)
  refine unmarked_mk hbody _ hscheme (fun a ha => ?_) (Location.unmarked_path ?_)
  · cases ha
    exact unmarked_authority hfront hread
  · split
    · exact Segments.unmarked_empty
    · exact unmarked_pathFromRoot _ hpath

theorem unmarked_fileOnHost {cs : List Char} {url : Url} (hcs : '#' ∉ cs)
    (h : fileOnHost? body cs = some url) : url.Unmarked := by
  have hback : '#' ∉ (cs.dropWhile fun c => !isSlash c).drop 1 :=
    fun hmem => hcs ((List.dropWhile_sublist _).subset (List.mem_of_mem_drop hmem))
  -- whatever host is read, it is kept or dropped
  have hkept : ∀ (onDrive : Bool) {host : List Char}, '#' ∉ host →
      '#' ∉ if onDrive then [] else if host = "localhost".toList then [] else host := by
    intro onDrive host hhost
    split
    · exact List.not_mem_nil
    · split
      · exact List.not_mem_nil
      · exact hhost
  have hpath := unmarked_pathFrom .file Segments.unmarked_empty hback
  unfold fileOnHost? at h
  dsimp only at h
  split at h
  · cases h
    exact unmarked_file hbody List.not_mem_nil (unmarked_pathFrom .file Segments.unmarked_empty hcs)
  · split at h
    · cases h
      exact unmarked_file hbody (hkept _ List.not_mem_nil) hpath
    · obtain ⟨host, hread, h⟩ := Option.bind_eq_some_iff.mp h
      cases h
      exact unmarked_file hbody (hkept _ (Host.mark_notMem_known hread)) hpath

/-- A URL with the path, the query and the fragment of a body, and everything else of the base. -/
theorem unmarked_onBase {base : Url} (hbase : base.Unmarked) (kind : SchemeKind)
    {segments : Segments} (hsegments : segments.Unmarked) :
    Unmarked { base with
      location := .path segments
      query := body.encodedQuery kind
      fragment := body.encodedFragment } :=
  unmarked_mk hbody kind hbase.scheme hbase.authority (Location.unmarked_path hsegments)

theorem unmarked_withFragment {base : Url} (hbase : base.Unmarked) :
    (withFragment base body).Unmarked where
  scheme := hbase.scheme
  authority := hbase.authority
  location := hbase.location
  query := hbase.query
  fragment := hbody.encodedFragment

theorem unmarked_fromRoot {base : Option Url} (hbase : ∀ b, base = some b → b.Unmarked)
    {rest : List Char} (hrest : '#' ∉ rest) : (file?.fromRoot base body rest).Unmarked := by
  have hroot : (pathFrom .file [] rest).Unmarked :=
    unmarked_pathFrom .file Segments.unmarked_empty hrest
  unfold file?.fromRoot
  split
  · exact unmarked_file hbody List.not_mem_nil hroot
  · next base =>
    have hb := hbase base rfl
    split
    · exact unmarked_file hbody List.not_mem_nil hroot
    · split
      · refine unmarked_file hbody List.not_mem_nil (unmarked_pathFrom .file ?_ hrest)
        exact hb.segments.of_subset (List.take_sublist _ _).subset
      · exact unmarked_file hbody hb.hostText hroot

theorem unmarked_file? {base : Option Url} (hbase : ∀ b, base = some b → b.Unmarked) {url : Url}
    (h : file? base body = some url) : url.Unmarked := by
  have hmain := hbody.main
  unfold file? at h
  split at h
  · split at h
    · cases h
      exact unmarked_file hbody List.not_mem_nil Segments.unmarked_nil
    · next base =>
      cases h
      have hb := hbase base rfl
      refine ⟨hb.scheme, hb.authority, hb.location, fun q hq => ?_, hbody.encodedFragment⟩
      rcases Option.or_eq_some_iff.mp hq with hq | ⟨-, hq⟩
      · exact hbody.encodedQuery .file hq
      · exact hb.query q hq
  · next c rest heq =>
    rw [heq] at hmain h
    have hrest : '#' ∉ rest := fun hmem => hmain (List.mem_cons_of_mem _ hmem)
    split at h
    · split at h
      · split at h
        · exact unmarked_fileOnHost hbody (fun hmem => hrest (List.mem_cons_of_mem _ hmem)) h
        · cases h
          exact unmarked_fromRoot hbody hbase hrest
      · cases h
        exact unmarked_fromRoot hbody hbase hrest
    · split at h
      · cases h
        exact unmarked_file hbody List.not_mem_nil
          (unmarked_pathFrom .file Segments.unmarked_empty hmain)
      · next base =>
        have hb := hbase base rfl
        split at h
        · cases h
          exact unmarked_file hbody List.not_mem_nil
            (unmarked_pathFrom .file Segments.unmarked_empty hmain)
        · cases h
          exact unmarked_onBase hbody hb .file
            (unmarked_pathFrom .file (unmarked_directoriesOf .file hb.segments) hmain)

theorem unmarked_relative {base url : Url} (hbase : base.Unmarked)
    (h : relative? base body = some url) : url.Unmarked := by
  have hmain := hbody.main
  have hpath : ∀ {directories : Segments} {cs : List Char}, directories.Unmarked → '#' ∉ cs →
      (relative?.atPath base body (pathFrom base.kind directories cs)).Unmarked :=
    fun hdirectories hcs =>
      unmarked_onBase hbody hbase base.kind (unmarked_pathFrom base.kind hdirectories hcs)
  unfold relative? at h
  dsimp only at h
  split at h
  · split at h
    · cases h
      exact unmarked_mk hbody base.kind hbase.scheme hbase.authority hbase.location
    · cases h
      exact unmarked_withFragment hbody hbase
  · next c rest heq =>
    rw [heq] at hmain h
    have hrest : '#' ∉ rest := fun hmem => hmain (List.mem_cons_of_mem _ hmem)
    split at h
    · split at h
      · exact unmarked_withAuthority hbody hbase.scheme
          (fun hmem => hrest (List.mem_cons_of_mem _ hmem)) h
      · split at h
        · exact unmarked_withAuthority hbody hbase.scheme
            (fun hmem => hrest ((List.dropWhile_sublist _).subset hmem)) h
        · cases h
          exact hpath Segments.unmarked_empty hrest
      · cases h
        exact hpath Segments.unmarked_empty hrest
    · cases h
      exact hpath (unmarked_directoriesOf base.kind hbase.segments) hmain

theorem unmarked_network {base : Option Url} (hbase : ∀ b, base = some b → b.Unmarked)
    {scheme : List Char} (hscheme : '#' ∉ scheme) {url : Url}
    (h : network? base scheme body = some url) : url.Unmarked := by
  have hrest : '#' ∉ body.main.dropWhile isSlash :=
    fun hmem => hbody.main ((List.dropWhile_sublist _).subset hmem)
  unfold network? at h
  dsimp only at h
  split at h
  · next base =>
    split at h
    · exact unmarked_relative hbody (hbase base rfl) h
    · exact unmarked_withAuthority hbody hscheme hrest h
  · exact unmarked_withAuthority hbody hscheme hrest h

theorem unmarked_other {scheme : List Char} (hscheme : '#' ∉ scheme) {url : Url}
    (h : other? scheme body = some url) : url.Unmarked := by
  have hmain := hbody.main
  have hwithout : ∀ {location : Location}, location.Unmarked →
      (other?.withoutAuthority scheme body location).Unmarked :=
    fun hlocation => unmarked_mk hbody .other hscheme (fun _ ha => nomatch ha) hlocation
  unfold other? at h
  split at h
  · next rest heq =>
    rw [heq] at hmain
    exact unmarked_withAuthority hbody hscheme
      (fun hmem => hmain (List.mem_cons_of_mem _ (List.mem_cons_of_mem _ hmem))) h
  · next rest heq =>
    rw [heq] at hmain
    cases h
    exact hwithout (Location.unmarked_path (unmarked_pathFrom .other Segments.unmarked_empty
      fun hmem => hmain (List.mem_cons_of_mem _ hmem)))
  · cases h
    exact hwithout (mark_notMem_encode (.inr hmain))

end Reading

theorem cleanText_subset (cs : List Char) : cleanText cs ⊆ cs := by
  intro c hc
  have hc := List.mem_reverse.mp (List.mem_filter.mp hc).1
  have hc := List.mem_reverse.mp ((List.dropWhile_sublist _).subset hc)
  exact (List.dropWhile_sublist _).subset hc

theorem unmarked_splitScheme {cs scheme rest : List Char} (hcs : '#' ∉ cs)
    (h : splitScheme? cs = some (scheme, rest)) : '#' ∉ scheme ∧ '#' ∉ rest := by
  unfold splitScheme? at h
  split at h
  · next c back hhead hdrop =>
    split at h
    · cases h
      constructor
      · intro hmem
        obtain ⟨d, hd, heq⟩ := List.mem_map.mp hmem
        have hne : d ≠ '#' := fun hd' => hcs (hd' ▸ (List.takeWhile_sublist _).subset hd)
        exact toLower_ne_mark hne heq
      · have hsub := (List.dropWhile_sublist (p := isSchemeChar) (l := cs)).subset
        rw [hdrop] at hsub
        exact fun hmem => hcs (hsub (List.mem_cons_of_mem _ hmem))
    · cases h
  · cases h

/-- **A text without a mark, read against an unmarked base, tells an unmarked URL.** -/
theorem unmarked_read {base : Option Url} (hbase : ∀ b, base = some b → b.Unmarked)
    {text : List Char} (htext : '#' ∉ text) {url : Url} (h : read? base text = some url) :
    url.Unmarked := by
  have hclean : '#' ∉ cleanText text := fun hmem => htext (cleanText_subset text hmem)
  unfold read? at h
  dsimp only at h
  split at h
  · next scheme rest hsplit =>
    obtain ⟨hscheme, hrest⟩ := unmarked_splitScheme hclean hsplit
    have hbody := unmarked_body hrest
    split at h
    · refine unmarked_file? hbody (fun b hb => ?_) h
      obtain ⟨b', hb', hb⟩ := Option.bind_eq_some_iff.mp hb
      split at hb
      · cases hb
        exact hbase b hb'
      · cases hb
    · exact unmarked_network hbody hbase hscheme h
    · exact unmarked_other hbody hscheme h
  · have hbody := unmarked_body hclean
    split at h
    · cases h
    · next base =>
      have hb := hbase base rfl
      split at h
      · cases h
        exact unmarked_withFragment hbody hb
      · split at h
        · cases h
        · split at h
          · exact unmarked_file? hbody hbase h
          · exact unmarked_relative hbody hb h

end Url

/-! ## 3. Keys -/

namespace DocumentKey

theorem unmarked_filesRoot : filesRoot.Unmarked where
  scheme := by decide
  authority := by
    intro a ha
    cases ha
    exact ⟨List.not_mem_nil, List.not_mem_nil⟩
  location := Url.Segments.unmarked_nil
  query := by
    intro q hq
    cases hq
  fragment := rfl

theorem mark_notMem_joinChars {current document : List Char} (hcurrent : '#' ∉ current)
    (hdocument : '#' ∉ document) : '#' ∉ joinChars current document := by
  have hnone : ∀ b : Url, none = some b → b.Unmarked := fun _ hb => nomatch hb
  unfold joinChars
  split
  · next base hbase =>
    have hb := Url.unmarked_read hnone hcurrent hbase
    split
    · next joined hjoined =>
      refine (Url.unmarked_read (fun b heq => ?_) hdocument hjoined).render
      cases heq
      exact hb
    · exact hdocument
  · split
    · next joined hjoined =>
      obtain ⟨base, hbase, hjoined⟩ := Option.bind_eq_some_iff.mp hjoined
      have hb : base.Unmarked := by
        refine Url.unmarked_read (fun b heq => ?_) hcurrent hbase
        cases heq
        exact unmarked_filesRoot
      have hj : joined.Unmarked := by
        refine Url.unmarked_read (fun b heq => ?_) hdocument hjoined
        cases heq
        exact hb
      have hpath : '#' ∉ pathText joined := hj.location.render
      split
      · exact hpath
      · exact fun hmem => hpath ((List.dropWhile_sublist _).subset hmem)
    · exact hdocument

/-- **Joining keys sets no marks.** -/
theorem mark_notMem_join {current document : String} (hcurrent : '#' ∉ current.toList)
    (hdocument : '#' ∉ document.toList) : '#' ∉ (join current document).toList := by
  rw [join, String.toList_ofList]
  exact mark_notMem_joinChars hcurrent hdocument

end DocumentKey

end SchemaMock
