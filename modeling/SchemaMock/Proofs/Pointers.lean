/-
# Pointers are read back

A segment of a pointer is escaped, so no slash of a name is taken for the end of a segment: the text
that is built of segments is split into the same segments again (`Pointer.split_build`).

Escaping is undone in two passes, and each pass undoes one half.  The first one turns what is left
of slashes into slashes, and cannot be misled by a tilde, as every tilde has a zero behind it; the
second one then finds tildes with zeros only.

A segment that nobody has escaped is read all the same, and there a tilde may have anything behind
it.  Still no escape is made by the first pass, which writes slashes only, so both passes together
read every escape of the segment once, from left to right (`Pointer.escapes_are_read_once`).
-/
import Mathlib.Data.List.TakeWhile
import SchemaMock.Pointer

namespace SchemaMock

/-! ## 1. Texts cut at a character -/

namespace Text

/-- A text without the separator is one piece. -/
theorem cut_of_notMem {separator : Char} : ∀ {cs : List Char}, separator ∉ cs →
    cut separator cs = [cs]
  | [], _ => rfl
  | c :: rest, h => by
    obtain ⟨hne, hrest⟩ := List.ne_and_not_mem_of_not_mem_cons h
    rw [cut, if_neg (Ne.symm hne), cut_of_notMem hrest]

/-- The first piece ends at the first separator. -/
theorem cut_append {separator : Char} (rest : List Char) : ∀ {piece : List Char},
    separator ∉ piece → cut separator (piece ++ separator :: rest) = piece :: cut separator rest
  | [], _ => by rw [List.nil_append, cut, if_pos rfl]
  | c :: piece, h => by
    obtain ⟨hne, hpiece⟩ := List.ne_and_not_mem_of_not_mem_cons h
    rw [List.cons_append, cut, if_neg (Ne.symm hne), cut_append rest hpiece]

/-- Every piece of pieces that have no separator is found again. -/
theorem cut_flatMap {separator : Char} {pieces : List (List Char)}
    (h : ∀ piece ∈ pieces, separator ∉ piece) {first : List Char} (hfirst : separator ∉ first) :
    cut separator (first ++ pieces.flatMap (separator :: ·)) = first :: pieces := by
  induction pieces generalizing first with
  | nil => rw [List.flatMap_nil, List.append_nil, cut_of_notMem hfirst]
  | cons piece pieces ih =>
    have hrest := ih (fun p hp => h p (List.mem_cons_of_mem _ hp)) (h piece List.mem_cons_self)
    rw [List.flatMap_cons, List.cons_append, cut_append _ hfirst, hrest]

theorem joinWith_cons (separator : Char) (first : List Char) (rest : List (List Char)) :
    joinWith separator (first :: rest) = first ++ rest.flatMap (separator :: ·) := by
  induction rest generalizing first with
  | nil => simp [joinWith]
  | cons piece rest ih => rw [joinWith, ih, List.flatMap_cons, List.cons_append]; simp

/-- What stands in a joined text is the separator or stands in a piece. -/
theorem mem_joinWith {separator c : Char} {pieces : List (List Char)}
    (h : c ∈ joinWith separator pieces) : c = separator ∨ ∃ piece ∈ pieces, c ∈ piece := by
  cases pieces with
  | nil => cases h
  | cons first rest =>
    rw [joinWith_cons] at h
    rcases List.mem_append.mp h with h | h
    · exact .inr ⟨first, List.mem_cons_self, h⟩
    · obtain ⟨piece, hpiece, h⟩ := List.mem_flatMap.mp h
      rcases List.mem_cons.mp h with h | h
      · exact .inl h
      · exact .inr ⟨piece, List.mem_cons_of_mem first hpiece, h⟩

/-- Pieces without separators are found again between them. -/
theorem cut_joinWith {separator : Char} {pieces : List (List Char)} (hne : pieces ≠ [])
    (h : ∀ piece ∈ pieces, separator ∉ piece) :
    cut separator (joinWith separator pieces) = pieces := by
  cases pieces with
  | nil => exact absurd rfl hne
  | cons first rest =>
    obtain ⟨hfirst, hrest⟩ := List.forall_mem_cons.mp h
    rw [joinWith_cons, cut_flatMap hrest hfirst]

theorem splitFirst_of_notMem {separator : Char} {cs : List Char} (h : separator ∉ cs) :
    splitFirst separator cs = (cs, none) := by
  have hall : ∀ c ∈ cs, (c ≠ separator : Bool) := by
    intro c hc
    exact decide_eq_true fun heq => h (heq ▸ hc)
  rw [splitFirst, List.dropWhile_eq_nil_iff.mpr hall]

theorem splitFirst_append {separator : Char} {front : List Char} (rest : List Char)
    (h : separator ∉ front) :
    splitFirst separator (front ++ separator :: rest) = (front, some rest) := by
  have hall : ∀ c ∈ front, (c ≠ separator : Bool) := by
    intro c hc
    exact decide_eq_true fun heq => h (heq ▸ hc)
  rw [splitFirst, List.dropWhile_append_of_pos hall, List.takeWhile_append_of_pos hall]
  simp

/-- What stands before the first separator has none. -/
theorem notMem_splitFirst (separator : Char) (cs : List Char) :
    separator ∉ (splitFirst separator cs).1 := by
  unfold splitFirst
  split
  · next h =>
    intro hmem
    have := List.dropWhile_eq_nil_iff.mp h separator hmem
    simp at this
  · intro hmem
    have := List.mem_takeWhile_imp hmem
    simp at this

end Text

/-! ## 2. Pointers -/

namespace Pointer

/-- Any other character is written as it is. -/
theorem escapeChars_cons {c : Char} (htilde : c ≠ '~') (hslash : c ≠ '/') (rest : List Char) :
    escapeChars (c :: rest) = c :: escapeChars rest := by
  rw [escapeChars]
  · exact htilde
  · exact hslash

theorem replacePair_cons_of_ne {a b c x : Char} (h : x ≠ a) (cs : List Char) :
    replacePair a b c (x :: cs) = x :: replacePair a b c cs := by
  cases cs with
  | nil => rfl
  | cons y rest => rw [replacePair, if_neg fun hxy => h hxy.1]

theorem replacePair_cons_cons_of_ne {a b c y : Char} (h : y ≠ b) (hya : y ≠ a) (cs : List Char) :
    replacePair a b c (a :: y :: cs) = a :: y :: replacePair a b c cs := by
  rw [replacePair, if_neg fun hxy => h hxy.2, replacePair_cons_of_ne hya]

/-- A text with its tildes escaped, and nothing else. -/
def escapeTildes (cs : List Char) : List Char :=
  cs.flatMap fun c => if c = '~' then ['~', '0'] else [c]

theorem escapeTildes_tilde (rest : List Char) :
    escapeTildes ('~' :: rest) = '~' :: '0' :: escapeTildes rest := rfl

theorem escapeTildes_cons {c : Char} (h : c ≠ '~') (rest : List Char) :
    escapeTildes (c :: rest) = c :: escapeTildes rest := by
  rw [escapeTildes, List.flatMap_cons, if_neg h]
  rfl

/-- The first half of reading an escaped segment gives its slashes back. -/
theorem replacePair_escapeChars (cs : List Char) :
    replacePair '~' '1' '/' (escapeChars cs) = escapeTildes cs := by
  induction cs using escapeChars.induct with
  | case1 => rfl
  | case2 rest ih =>
    rw [escapeChars, replacePair_cons_cons_of_ne (by decide) (by decide), ih, escapeTildes_tilde]
  | case3 rest ih =>
    rw [escapeChars, replacePair, if_pos ⟨rfl, rfl⟩, ih, escapeTildes_cons (by decide)]
  | case4 c rest htilde hslash ih =>
    rw [escapeChars_cons htilde hslash, replacePair_cons_of_ne htilde, ih,
      escapeTildes_cons htilde]

/-- The second half gives its tildes back. -/
theorem replacePair_escapeTildes (cs : List Char) :
    replacePair '~' '0' '~' (escapeTildes cs) = cs := by
  induction cs with
  | nil => rfl
  | cons c rest ih =>
    by_cases h : c = '~'
    · rw [h, escapeTildes_tilde, replacePair, if_pos ⟨rfl, rfl⟩, ih]
    · rw [escapeTildes_cons h, replacePair_cons_of_ne h, ih]

/-- **An escaped segment is read back.** -/
theorem unescapeChars_escapeChars (cs : List Char) : unescapeChars (escapeChars cs) = cs := by
  rw [unescapeChars, replacePair_escapeChars, replacePair_escapeTildes]

/-- No slash is left in an escaped segment. -/
theorem slash_notMem_escapeChars (cs : List Char) : '/' ∉ escapeChars cs := by
  induction cs using escapeChars.induct with
  | case1 => simp [escapeChars]
  | case2 rest ih => simpa [escapeChars] using ih
  | case3 rest ih => simpa [escapeChars] using ih
  | case4 c rest htilde hslash ih =>
    rw [escapeChars_cons htilde hslash]
    simpa [Ne.symm hslash] using ih

theorem toList_build (parent : String) (segments : List String) :
    (build parent segments).toList
      = parent.toList ++ (segments.map fun s => escapeChars s.toList).flatMap ('/' :: ·) := by
  induction segments generalizing parent with
  | nil => simp [build]
  | cons segment rest ih =>
    have hstep : build parent (segment :: rest)
        = build (parent ++ "/" ++ escape segment) rest := rfl
    rw [hstep, ih]
    simp [escape, String.toList_append]

/-- Segments, each behind a slash, are found again. -/
theorem splitChars_flatMap (segments : List String) :
    splitChars ((segments.map fun s => escapeChars s.toList).flatMap ('/' :: ·))
      = segments.map String.toList := by
  have hmark : ∀ cs : List Char, stripMark ('/' :: cs) = '/' :: cs := fun _ => rfl
  cases segments with
  | nil => rfl
  | cons segment rest =>
    have hslash : ∀ piece ∈ rest.map fun s => escapeChars s.toList, '/' ∉ piece := by
      intro piece hpiece
      obtain ⟨s, -, rfl⟩ := List.mem_map.mp hpiece
      exact slash_notMem_escapeChars s.toList
    rw [List.map_cons, List.flatMap_cons, List.cons_append, splitChars, hmark]
    simp only [Text.cut_flatMap hslash (slash_notMem_escapeChars segment.toList), List.map_cons,
      List.map_map]
    simp [Function.comp_def, unescapeChars_escapeChars]

/-- The mark in front of segments makes no difference. -/
theorem splitChars_mark (segments : List String) :
    splitChars ('#' :: (segments.map fun s => escapeChars s.toList).flatMap ('/' :: ·))
      = splitChars ((segments.map fun s => escapeChars s.toList).flatMap ('/' :: ·)) := by
  cases segments <;> rfl

/-- **A pointer is read back.** -/
theorem split_build (segments : List String) : split (build "#" segments) = segments := by
  have hchars : (build "#" segments).toList
      = '#' :: (segments.map fun s => escapeChars s.toList).flatMap ('/' :: ·) :=
    toList_build "#" segments
  rw [split, hchars, splitChars_mark, splitChars_flatMap]
  simp

/-- **A pointer without its mark is read back.** -/
theorem split_build_unmarked (segments : List String) : split (build "" segments) = segments := by
  have hchars : (build "" segments).toList
      = (segments.map fun s => escapeChars s.toList).flatMap ('/' :: ·) :=
    toList_build "" segments
  rw [split, hchars, splitChars_flatMap]
  simp

end Pointer

/-! ## 3. Any segment, read once -/

namespace Pointer

/-- What a segment stands for, read once from left to right: `~0` is a tilde, `~1` is a slash, and
everything else stands for itself, a tilde before any other character or at the end too. -/
def decodeChars : List Char → List Char
  | '~' :: '0' :: rest => '~' :: decodeChars rest
  | '~' :: '1' :: rest => '/' :: decodeChars rest
  | c :: rest => c :: decodeChars rest
  | [] => []

/-- What a segment stands for, read once. -/
def decode (segment : String) : String := String.ofList (decodeChars segment.toList)

theorem replacePair_cons_of_head? {a b c x : Char} {cs : List Char} (h : cs.head? ≠ some b) :
    replacePair a b c (x :: cs) = x :: replacePair a b c cs := by
  cases cs with
  | nil => rfl
  | cons y rest =>
    rw [replacePair, if_neg]
    rintro ⟨-, rfl⟩
    exact h rfl

/-- A pass brings no character to the front but the one it writes. -/
theorem head?_of_head?_replacePair {a b c d : Char} {cs : List Char} (hd : d ≠ c)
    (h : (replacePair a b c cs).head? = some d) : cs.head? = some d := by
  cases cs with
  | nil => exact h
  | cons x rest =>
    cases rest with
    | nil => exact h
    | cons y rest =>
      rw [replacePair] at h
      split at h
      · exact absurd (Option.some.inj h).symm hd
      · exact h

theorem unescapeChars_zero (rest : List Char) :
    unescapeChars ('~' :: '0' :: rest) = '~' :: unescapeChars rest := by
  rw [unescapeChars, replacePair_cons_cons_of_ne (by decide) (by decide), replacePair,
    if_pos ⟨rfl, rfl⟩, unescapeChars]

theorem unescapeChars_one (rest : List Char) :
    unescapeChars ('~' :: '1' :: rest) = '/' :: unescapeChars rest := by
  rw [unescapeChars, replacePair, if_pos ⟨rfl, rfl⟩, replacePair_cons_of_ne (by decide),
    unescapeChars]

/-- A character that begins no escape stays, and begins none after the first pass either. -/
theorem unescapeChars_cons {c : Char} {rest : List Char}
    (h : c ≠ '~' ∨ rest.head? ≠ some '0' ∧ rest.head? ≠ some '1') :
    unescapeChars (c :: rest) = c :: unescapeChars rest := by
  rcases h with hne | ⟨hzero, hone⟩
  · rw [unescapeChars, replacePair_cons_of_ne hne, replacePair_cons_of_ne hne, unescapeChars]
  · have hstill : (replacePair '~' '1' '/' rest).head? ≠ some '0' :=
      fun hhead => hzero (head?_of_head?_replacePair (by decide) hhead)
    rw [unescapeChars, replacePair_cons_of_head? hone, replacePair_cons_of_head? hstill,
      unescapeChars]

/-- Both passes together read every escape once. -/
theorem unescapeChars_eq_decodeChars (cs : List Char) : unescapeChars cs = decodeChars cs := by
  induction cs using decodeChars.induct with
  | case1 rest ih => rw [unescapeChars_zero, decodeChars, ih]
  | case2 rest ih => rw [unescapeChars_one, decodeChars, ih]
  | case3 c rest hzero hone ih =>
    have hplain : c ≠ '~' ∨ rest.head? ≠ some '0' ∧ rest.head? ≠ some '1' := by
      by_cases hc : c = '~'
      · refine .inr ⟨fun hhead => ?_, fun hhead => ?_⟩
        · obtain ⟨back, rfl⟩ := List.head?_eq_some_iff.mp hhead
          exact hzero back hc rfl
        · obtain ⟨back, rfl⟩ := List.head?_eq_some_iff.mp hhead
          exact hone back hc rfl
      · exact .inl hc
    rw [unescapeChars_cons hplain, ih, decodeChars]
    · exact hzero
    · exact hone
  | case4 => rfl

example : unescapeChars "~01~~1~".toList = "~1~/~".toList := by decide

/-- **Undoing escapes in two passes is reading them once**, for every text, and it is the way back
from escaping. -/
theorem escapes_are_read_once (segment : String) :
    unescape segment = decode segment ∧ unescape (escape segment) = segment := by
  constructor
  · rw [unescape, decode, unescapeChars_eq_decodeChars]
  · rw [unescape, escape, String.toList_ofList, unescapeChars_escapeChars, String.ofList_toList]

end Pointer

end SchemaMock
