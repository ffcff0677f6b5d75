/-
# Texts and paths as URLs take them

What a URL leaves alone when it takes a text apart: a text without blanks and controls at its ends,
what need not be encoded, and segments without slashes in them.  A walk along a path makes no
segment of its own, but for the empty one and the letter of a drive with its colon (`mem_walk`).
-/
import SchemaMock.Proofs.Pointers
import SchemaMock.Url.Parser

namespace SchemaMock.Url

/-! ## 1. Characters -/

/-- Nothing is trimmed in front of a graphic character. -/
theorem dropWhile_graphic {cs : List Char} (h : ∀ c ∈ cs, 32 < c.toNat) :
    cs.dropWhile (fun c => decide (c.toNat ≤ 32)) = cs := by
  cases cs with
  | nil => rfl
  | cons c rest =>
    have hc := h c List.mem_cons_self
    exact List.dropWhile_cons_of_neg (by simpa using hc)

theorem filter_graphic {cs : List Char} (h : ∀ c ∈ cs, 32 < c.toNat) :
    (cs.filter fun c => c ≠ '\t' ∧ c ≠ '\n' ∧ c ≠ '\r') = cs := by
  rw [List.filter_eq_self]
  intro c hc
  have hgraphic := h c hc
  refine decide_eq_true ⟨?_, ?_, ?_⟩
  all_goals
    rintro rfl
    exact absurd hgraphic (by decide)

theorem cleanText_of_graphic {cs : List Char} (h : ∀ c ∈ cs, 32 < c.toNat) : cleanText cs = cs := by
  have hreverse : ∀ c ∈ cs.reverse, 32 < c.toNat := fun c hc => h c (List.mem_reverse.mp hc)
  rw [cleanText, dropWhile_graphic h, dropWhile_graphic hreverse, List.reverse_reverse,
    filter_graphic h]

theorem encode_of_stays {inSet : Char → Bool} {cs : List Char}
    (h : ∀ c ∈ cs, inSet c = false) : encode inSet cs = cs := by
  induction cs with
  | nil => rfl
  | cons c rest ih =>
    obtain ⟨hc, hrest⟩ := List.forall_mem_cons.mp h
    have hstep : encode inSet (c :: rest)
        = (if inSet c then (bytesOf c).flatMap encodeByte else [c]) ++ encode inSet rest :=
      List.flatMap_cons
    rw [hstep, hc, ih hrest]
    rfl

/-! ## 2. Segments -/

namespace Segments

variable {segments : Segments}

/-- What stands in front is trimmed only if it is empty. -/
theorem trimFront_cons {first : List Char} {rest : Segments} (h : first ≠ []) :
    trimFront (first :: rest) = first :: rest := by
  have hfirst : first.isEmpty = false := List.isEmpty_eq_false_iff.mpr h
  simp [trimFront, hfirst]

/-- The text of a path is a slash and the segments with slashes between them. -/
theorem render_eq_joinWith (hne : segments ≠ []) :
    segments.render = '/' :: Text.joinWith '/' segments := by
  obtain ⟨first, rest, rfl⟩ := List.exists_cons_of_ne_nil hne
  rw [render, List.flatMap_cons, Text.joinWith_cons, List.cons_append]

/-- Final segments are cut out of their text again. -/
theorem segmentsOf_joinWith (hne : segments ≠ [])
    (hstays : ∀ segment ∈ segments, ∀ c ∈ segment, inPathSet c = false)
    (hslash : ∀ segment ∈ segments, ∀ c ∈ segment, isSlash c = false) :
    segmentsOf .file (Text.joinWith '/' segments) = segments := by
  have hcut : ∀ segment ∈ segments, '/' ∉ segment := fun segment hsegment hmem =>
    absurd (hslash segment hsegment '/' hmem) (by decide)
  have hslanted : (Text.joinWith '/' segments).map (fun c => if c = '\\' then '/' else c)
      = Text.joinWith '/' segments := by
    refine (List.map_congr_left fun c hc => if_neg ?_).trans (List.map_id _)
    rintro rfl
    rcases Text.mem_joinWith hc with hc | ⟨segment, hsegment, hc⟩
    · exact absurd hc (by decide)
    · exact absurd (hslash segment hsegment _ hc) (by decide)
  have hencode : segments.map (encode inPathSet) = segments := by
    refine (List.map_congr_left fun segment hsegment => ?_).trans (List.map_id _)
    exact encode_of_stays (hstays segment hsegment)
  have hknown : SchemeKind.isKnown .file = true := rfl
  simp only [segmentsOf, hknown, if_true, hslanted]
  rw [Text.cut_joinWith hne hcut, hencode]

/-! ### Walks -/

/-- A segment is written as it is, or as the letter of a drive. -/
theorem written_cases (isFile : Bool) (directories : Segments) (told : List Char) :
    written isFile directories told = told ∨
      isDrive told = true ∧ written isFile directories told = plainDrive told := by
  unfold written
  split
  · next hif => exact .inr ⟨hif.2.2, rfl⟩
  · exact .inl rfl

theorem mem_of_mem_goUp {directories : Segments} {segment : List Char}
    (h : segment ∈ goUp directories) : segment ∈ directories := by
  cases directories with
  | nil => exact h
  | cons d rest =>
    rw [goUp] at h
    split at h
    · exact h
    · exact List.mem_cons_of_mem _ h

/-- A walk comes along directories, and along segments that are no steps. -/
theorem mem_walk {isFile : Bool} {directories segments : Segments} {segment : List Char}
    (h : segment ∈ walk isFile directories segments) :
    segment ∈ directories ∨ segment = [] ∨ ∃ told ∈ segments, dots? told ≠ some 1 ∧
      dots? told ≠ some 2 ∧ (segment = told ∨ isDrive told = true ∧ segment = plainDrive told) := by
  induction directories, segments using walk.induct isFile with
  | case1 directories =>
    rw [walk] at h
    rcases List.mem_append.mp h with h | h
    · exact .inl (List.mem_reverse.mp h)
    · exact .inr (.inl (List.mem_singleton.mp h))
  | case2 directories last hdots =>
    simp only [walk, hdots] at h
    rcases List.mem_append.mp h with h | h
    · exact .inl (List.mem_reverse.mp h)
    · exact .inr (.inl (List.mem_singleton.mp h))
  | case3 directories last hdots =>
    simp only [walk, hdots] at h
    rcases List.mem_append.mp h with h | h
    · exact .inl (mem_of_mem_goUp (List.mem_reverse.mp h))
    · exact .inr (.inl (List.mem_singleton.mp h))
  | case4 directories last hone htwo =>
    simp only [walk] at h
    rcases List.mem_append.mp h with h | h
    · exact .inl (List.mem_reverse.mp h)
    · cases List.mem_singleton.mp h
      exact .inr (.inr ⟨last, List.mem_cons_self, hone, htwo, written_cases isFile _ _⟩)
  | case5 directories told rest hne hdots ih =>
    simp only [walk, hdots] at h
    rcases ih h with h | h | ⟨other, hother, h⟩
    · exact .inl h
    · exact .inr (.inl h)
    · exact .inr (.inr ⟨other, List.mem_cons_of_mem _ hother, h⟩)
  | case6 directories told rest hne hdots ih =>
    simp only [walk, hdots] at h
    rcases ih h with h | h | ⟨other, hother, h⟩
    · exact .inl (mem_of_mem_goUp h)
    · exact .inr (.inl h)
    · exact .inr (.inr ⟨other, List.mem_cons_of_mem _ hother, h⟩)
  | case7 directories told rest hne hone htwo ih =>
    simp only [walk] at h
    rcases ih h with h | h | ⟨other, hother, h⟩
    · rcases List.mem_cons.mp h with rfl | h
      · exact .inr (.inr ⟨told, List.mem_cons_self, hone, htwo, written_cases isFile _ _⟩)
      · exact .inl h
    · exact .inr (.inl h)
    · exact .inr (.inr ⟨other, List.mem_cons_of_mem _ hother, h⟩)

end Segments

end SchemaMock.Url
