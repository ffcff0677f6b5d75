/-
# Names of properties, read back

A key stands in the text of an object as it is, if it is an identifier, and otherwise between single
quotes, with a backslash in front of quotes and backslashes.  Here such a text is read again, by the
rules for names of properties in an object of JavaScript: an identifier goes on as long as it can,
and a literal goes on to the first quote that no backslash has taken away.

* `readName?` is told which characters may stand in a literal for themselves.  If all may, every key
  is read back, and what is left is what was put behind it (`readName?_renderKey`); so no two keys
  have the same text.
* The language does not let a line end in a literal, and nobody writes such a character in another
  way.  So the text of a key is a name of a property exactly if the key has no end of a line in it
  (`property_names_read_back`).
-/
import SchemaMock.Mock.Expression

namespace SchemaMock

namespace Expression

/-! ## 1. Names of properties -/

/-- A character that ends a line, and cannot stand in a literal. -/
def endsLine (c : Char) : Bool := c == '\n' || c == '\r'

/-- The character that another one stands for behind a backslash.  What a backslash could begin
besides, a number of a character or a line that goes on, is not read. -/
def escaped? : Char → Option Char
  | 'b' => some '\x08'
  | 't' => some '\t'
  | 'n' => some '\n'
  | 'v' => some '\x0b'
  | 'f' => some '\x0c'
  | 'r' => some '\r'
  | c =>
    if c.isDigit || c == 'x' || c == 'u' || endsLine c || c == '\u2028' || c == '\u2029' then none
    else some c

/-- What a literal says from here on to its end, and what is left behind the quote that ends it.
Quotes and backslashes aside, the characters that `raw` allows stand for themselves, and no
others. -/
def readLiteral? (raw : Char → Bool) : List Char → Option (List Char × List Char)
  | [] => none
  | ['\\'] => none
  | '\\' :: c :: rest =>
    (escaped? c).bind fun said => (readLiteral? raw rest).map fun e => (said :: e.1, e.2)
  | '\'' :: rest => some ([], rest)
  | c :: rest => if raw c then (readLiteral? raw rest).map fun e => (c :: e.1, e.2) else none

/-- The name of a property that a text begins with, and what is left behind it. -/
def readName? (raw : Char → Bool) : List Char → Option (List Char × List Char)
  | [] => none
  | '\'' :: rest => readLiteral? raw rest
  | c :: rest =>
    if startsIdentifier c then
      some (c :: rest.takeWhile continuesIdentifier, rest.dropWhile continuesIdentifier)
    else none

/-! ## 2. Literals -/

/-- What stands in quotes for a character of a key is read as that character, if it is allowed. -/
theorem readLiteral?_quoteKeyChar (raw : Char → Bool) (c : Char) (text : List Char)
    (hquote : raw '\'' = true) (hbackslash : raw '\\' = true) :
    readLiteral? raw (quoteKeyChar c ++ text)
      = if raw c then (readLiteral? raw text).map fun e => (c :: e.1, e.2) else none := by
  by_cases hbs : c = '\\'
  · subst hbs
    rw [if_pos hbackslash]
    rfl
  by_cases hq : c = '\''
  · subst hq
    rw [if_pos hquote]
    rfl
  · have hself : quoteKeyChar c = [c] := if_neg (not_or.mpr ⟨hq, hbs⟩)
    rw [hself, List.singleton_append, readLiteral?]
    · rintro rfl
      exact absurd rfl hbs
    · exact fun _ _ h => absurd h hbs
    · exact hq

/-- **A literal that is written for a key says the key**, and ends where its last quote stands. -/
theorem readLiteral?_key (raw : Char → Bool) (key rest : List Char) (hquote : raw '\'' = true)
    (hbackslash : raw '\\' = true) :
    readLiteral? raw (key.flatMap quoteKeyChar ++ '\'' :: rest)
      = if key.all raw then some (key, rest) else none := by
  induction key with
  | nil => rfl
  | cons c key ih =>
    rw [List.flatMap_cons, List.append_assoc, readLiteral?_quoteKeyChar raw c _ hquote hbackslash,
      ih, List.all_cons]
    cases raw c with
    | false => rfl
    | true => cases key.all raw <;> rfl

/-! ## 3. Keys -/

theorem isAscii_of_continuesIdentifier {c : Char} (h : continuesIdentifier c = true) :
    c.toNat < 128 := by
  have hbelow : ∀ {last : Char}, c.val ≤ last.val → last.toNat < 128 → c.toNat < 128 :=
    fun hle hlast => Nat.lt_of_le_of_lt (UInt32.le_iff_toNat_le.mp hle) hlast
  simp only [continuesIdentifier, Char.isAlphanum, Bool.or_eq_true, beq_iff_eq] at h
  rcases h with ((halpha | hdigit) | rfl) | rfl
  · rcases Bool.or_eq_true_iff.mp halpha with hupper | hlower
    · exact hbelow (of_decide_eq_true hupper).2 (by decide : 'Z'.toNat < 128)
    · exact hbelow (of_decide_eq_true (Bool.and_eq_true_iff.mp hlower).2)
        (by decide : 'z'.toNat < 128)
  · exact hbelow (of_decide_eq_true (Bool.and_eq_true_iff.mp hdigit).2)
      (by decide : '9'.toNat < 128)
  · decide
  · decide

theorem continuesIdentifier_of_starts {c : Char} (h : startsIdentifier c = true) :
    continuesIdentifier c = true := by
  simp only [startsIdentifier, continuesIdentifier, Char.isAlphanum, Bool.or_eq_true] at h ⊢
  exact h.imp_left (Or.imp_left Or.inl)

/-- All characters of an identifier continue one. -/
theorem all_of_isIdentifier {key : List Char} (h : isIdentifier key = true) :
    ∀ c ∈ key, continuesIdentifier c = true := by
  cases key with
  | nil => exact List.forall_mem_nil _
  | cons c rest =>
    obtain ⟨hfirst, hrest⟩ := Bool.and_eq_true_iff.mp h
    exact List.forall_mem_cons.mpr
      ⟨continuesIdentifier_of_starts hfirst, List.all_eq_true.mp hrest⟩

/-- **The text of a key is read as the key**, whatever stands behind it that does not go on as an
identifier would; a key in quotes only if its characters are allowed there. -/
theorem readName?_renderKeyChars (raw : Char → Bool) (key : List Char) {rest : List Char}
    (hquote : raw '\'' = true) (hbackslash : raw '\\' = true)
    (hrest : ∀ c, rest.head? = some c → continuesIdentifier c = false) :
    readName? raw (renderKeyChars key ++ rest)
      = if isIdentifier key || key.all raw then some (key, rest) else none := by
  cases hkey : isIdentifier key with
  | false =>
    rw [renderKeyChars, hkey, Bool.false_or, ← readLiteral?_key raw key rest hquote hbackslash]
    simp [readName?]
  | true =>
    rw [renderKeyChars, if_pos hkey]
    cases key with
    | nil => cases hkey
    | cons c key =>
      obtain ⟨hfirst, hkey⟩ := Bool.and_eq_true_iff.mp hkey
      have hall : ∀ c ∈ key, continuesIdentifier c = true := List.all_eq_true.mp hkey
      have hstop : rest.takeWhile continuesIdentifier = [] ∧
          rest.dropWhile continuesIdentifier = rest := by
        cases rest with
        | nil => exact ⟨rfl, rfl⟩
        | cons d rest => simp [hrest d rfl]
      rw [List.cons_append, readName?, if_pos hfirst, List.takeWhile_append_of_pos hall,
        List.dropWhile_append_of_pos hall, hstop.1, hstop.2, List.append_nil]
      · rfl
      · rintro rfl
        cases hfirst

/-- What stands behind a key in the text of an object does not go on as an identifier. -/
theorem readName?_property (raw : Char → Bool) (key : String) (e : Expression)
    (hquote : raw '\'' = true) (hbackslash : raw '\\' = true) :
    readName? raw (renderKey key ++ ": " ++ render e).toList
      = if isIdentifier key.toList || key.toList.all raw then
          some (key.toList, (": " ++ render e).toList) else none := by
  have htext : (renderKey key ++ ": " ++ render e).toList
      = renderKeyChars key.toList ++ (": " ++ render e).toList := by
    simp only [String.append_assoc, String.toList_append, renderKey, String.toList_ofList]
  rw [htext]
  refine readName?_renderKeyChars raw key.toList hquote hbackslash fun c hc => ?_
  have hcolon : (": " ++ render e).toList = ':' :: ' ' :: (render e).toList :=
    String.toList_append
  rw [hcolon] at hc
  cases hc
  decide

/-- No identifier ends a line. -/
theorem isIdentifier_or_all (key : List Char) :
    (isIdentifier key || key.all fun c => !endsLine c) = key.all fun c => !endsLine c := by
  cases hkey : isIdentifier key with
  | false => rfl
  | true =>
    symm
    rw [Bool.true_or, List.all_eq_true]
    intro c hc
    have hcontinues := all_of_isIdentifier hkey c hc
    cases hline : endsLine c with
    | false => rfl
    | true =>
      rw [endsLine, Bool.or_eq_true, beq_iff_eq, beq_iff_eq] at hline
      rcases hline with rfl | rfl <;> cases hcontinues

/-- **The text of a key is the name of a property that denotes the key, unless the key ends a
line.**  The text is the key itself, an identifier of plain letters, or stands between single
quotes.  In an object, where a colon and a value come behind it, it is read as the key, and what is
left begins with that colon, if the literals of the reader may go over the end of a line.  By the
rules of the language they may not, and then the same is read exactly if the key has no such
character, and otherwise nothing is.  Different keys have different texts in any case. -/
theorem property_names_read_back (key : String) (e : Expression) :
    (renderKey key = key ∧ isIdentifier key.toList = true ∧ (∀ c ∈ key.toList, c.toNat < 128) ∨
      ∃ body, (renderKey key).toList = '\'' :: body ++ ['\'']) ∧
    readName? (fun _ => true) (renderKey key ++ ": " ++ render e).toList
      = some (key.toList, (": " ++ render e).toList) ∧
    readName? (fun c => !endsLine c) (renderKey key ++ ": " ++ render e).toList
      = (if key.toList.all fun c => !endsLine c then
          some (key.toList, (": " ++ render e).toList) else none) ∧
    ∀ key', renderKey key' = renderKey key → key' = key := by
  have hread : ∀ key, readName? (fun _ => true) (renderKey key ++ ": " ++ render e).toList
      = some (key.toList, (": " ++ render e).toList) := by
    intro key
    rw [readName?_property _ key e rfl rfl]
    simp
  refine ⟨?_, hread key, ?_, fun key' hsame => ?_⟩
  · cases hkey : isIdentifier key.toList with
    | true =>
      have hself : renderKey key = key := by
        rw [renderKey, renderKeyChars, if_pos hkey, String.ofList_toList]
      exact .inl ⟨hself, rfl, fun c hc =>
        isAscii_of_continuesIdentifier (all_of_isIdentifier hkey c hc)⟩
    | false =>
      refine .inr ⟨key.toList.flatMap quoteKeyChar, ?_⟩
      rw [renderKey, String.toList_ofList, renderKeyChars, hkey]
      rfl
  · rw [readName?_property _ key e rfl rfl, isIdentifier_or_all]
  · have hboth := hread key'
    rw [hsame, hread key] at hboth
    exact (String.toList_inj.mp (Prod.mk.inj (Option.some.inj hboth)).1).symm

/-- **A key can be written so that nothing can be read.** -/
theorem key_with_line_end_is_no_name :
    ¬ ∀ (key : String) (e : Expression),
      readName? (fun c => !endsLine c) (renderKey key ++ ": " ++ render e).toList
        = some (key.toList, (": " ++ render e).toList) := by
  intro hclaim
  have hread := hclaim "a\nb" .null
  revert hread
  decide

end Expression

end SchemaMock
